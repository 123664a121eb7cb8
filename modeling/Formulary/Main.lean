/-
  The program: the tools for forms, offered on standard input and output.

  Settings come from the environment and the command line.  Each line of input
  is a call, a record with the name of a tool and its arguments, and is
  answered by a line with the text of the answer, or null for a call that does
  not fit.
-/
import Formulary.Arguments
import Formulary.Service

namespace Formulary.Program

/-- What is told to who asks for help. -/
def help : String :=
  "usage: formulary [-h] [--transport \x7bstdio,sse\x7d] [--host HOST] [--port PORT] [--strict]\n\n"
    ++ "Validate, describe and mount declarative forms over MCP"

/-- The answer to a line of input. -/
def answer (settings : Settings) (s : Store) (line : String) : Store × Value :=
  match Json.read line with
  | .ok (.record es) =>
    match es.lookup "name" with
    | some (.text tool) =>
      let (s, text) := Service.serve settings s tool ((es.lookup "arguments").getD .null)
      (s, .ofText? text)
    | _ => (s, .null)
  | _ => (s, .null)

/-- Answers line after line. -/
partial def serve (settings : Settings) (s : Store) (input output : IO.FS.Stream) : IO Unit := do
  let line ← input.getLine
  if line.isEmpty then return
  let (s, v) := answer settings s line
  output.putStrLn (Json.write .ascii v)
  output.flush
  serve settings s input output

/-- The values of the variables that settings are read from. -/
def environment : IO (List (String × String)) :=
  Settings.variableNames.filterMapM fun name => do
    return (← IO.getEnv name).map (name, ·)

/-- Runs the program and gives the status that it ends with. -/
def run (words : List String) : IO UInt32 := do
  let env ← environment
  match Settings.ofEnvironment fun name => env.lookup name with
  | .error f =>
    IO.eprintln ("Error: " ++ f.message?.getD "")
    return 1
  | .ok settings =>
    match Arguments.parse settings words with
    | .error .help =>
      IO.println help
      return 0
    | .error .misuse =>
      IO.eprintln help
      return 2
    | .ok a =>
      IO.eprintln (Arguments.banner a)
      match Arguments.transportProblem? a with
      | some problem =>
        IO.eprintln ("Error: " ++ problem)
        return 1
      | none =>
        serve { settings with strictCompile := a.strict } {} (← IO.getStdin) (← IO.getStdout)
        return 0

end Formulary.Program

def main (words : List String) : IO UInt32 := Formulary.Program.run words
