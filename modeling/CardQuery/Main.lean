import CardQuery.Console

/-!
The command line. The only argument is the file of keywords, and each line of standard input is
answered before the next one is read.
-/

set_option autoImplicit false
set_option relaxedAutoImplicit false

open CardQuery

def readContents (path : String) : IO Registry.FileContents := do
  try
    return .text (← IO.FS.readFile path)
  catch error =>
    match error with
    | .noFileOrDirectory .. => return .missing
    | _ => return .unreadable

/-- The exit status of a dialogue that broke off. -/
def brokenOff : UInt32 := 101

/-- Answers lines until the input ends. -/
partial def converse (input : IO.FS.Stream) (registry : Registry) (subject : Subject) :
    IO UInt32 := do
  let typed ← input.getLine
  if typed.isEmpty then return 0
  match Console.Draft.finish typed with
  | none => return brokenOff
  | some line =>
    let (answer, next) := Console.respond registry subject line
    answer.forM IO.println
    converse input registry next

def main (arguments : List String) : IO UInt32 := do
  let path := arguments.headD Console.usualPath
  let (registry, notice) := Console.openRegistry path (← readContents path)
  (Console.greeting ++ [notice]).forM IO.println
  converse (← IO.getStdin) registry .card
