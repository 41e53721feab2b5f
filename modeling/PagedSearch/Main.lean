import PagedSearch.CommandLine.Run

/-! # Entry point -/

open PagedSearch

def PagedSearch.readEntry (path : String) : IO FileEntry := do
  try
    return .file (← IO.FS.readBinFile path).toList
  catch
    | .inappropriateType _ code _ =>
      return if code = 21 then .directory else .nowhere .blocked
    | .invalidArgument _ 36 _ => return .nowhere .tooLong
    | _ => return .nowhere .missing

def main (arguments : List String) : IO UInt32 := do
  match CommandLine.parse arguments with
  | .error fault =>
    if fault.isRequested then IO.print fault.message else IO.eprint fault.message
    return .ofNat fault.exitStatus
  | .ok line =>
    let entries ← line.paths.mapM fun path => do return (path, ← PagedSearch.readEntry path)
    match line.execute fun path => (entries.lookup path).getD (.nowhere .missing) with
    | .ok text =>
      IO.print text
      return 0
    | .error e =>
      IO.eprintln ("Error: " ++ e.message)
      return .ofNat e.exitStatus
