/-! Verbosity: how much is logged, set once until it is reset. -/
namespace NotePlot

/-- A level as it is asked for. -/
inductive LevelRequest
  | number (n : Int)
  | name (s : String)

namespace LevelRequest

/-- The named levels by their names. -/
def names : List (String × Int) :=
  [("CRITICAL", 50), ("FATAL", 50), ("ERROR", 40), ("WARN", 30), ("WARNING", 30), ("INFO", 20),
    ("DEBUG", 10), ("NOTSET", 0)]

def usual : Int := 20

/-- The capital of a letter; besides the ASCII letters, two more have an ASCII capital. -/
def capital (c : Char) : Char :=
  if c.toNat = 0x131 then 'I' else if c.toNat = 0x17F then 'S' else c.toUpper

/-- The level asked for; names may be in letters of either case, and unknown ones stand for the
usual level. -/
def level : LevelRequest → Int
  | number n => n
  | name s => ((names.lookup (String.ofList (s.toList.map capital))).getD usual)

end LevelRequest

/-- The levels of the root and of the two loggers below it, and how many handlers the root has. -/
structure Verbosity where
  root : Int
  handlers : Nat
  engine : Int
  analysis : Int
deriving DecidableEq

inductive VerbosityStep
  | configure (request : LevelRequest)
  | reset

namespace Verbosity

/-- Before anything is configured. -/
def start : Verbosity := ⟨30, 0, 0, 0⟩

def lineFormat : String := "%(asctime)s - %(name)s - %(levelname)s - %(message)s"

/-- The formats of the root's handlers. -/
def formats (v : Verbosity) : List String := List.replicate v.handlers lineFormat

/-- While there is a handler, nothing changes. -/
def configure (v : Verbosity) (request : LevelRequest) : Verbosity :=
  if v.handlers ≠ 0 then v
  else ⟨request.level, 1, request.level, request.level⟩

/-- Takes the handlers away and keeps the levels. -/
def reset (v : Verbosity) : Verbosity := { v with handlers := 0 }

def step (v : Verbosity) : VerbosityStep → Verbosity
  | .configure request => v.configure request
  | .reset => v.reset

/-- What holds after each step. -/
def trace (v : Verbosity) : List VerbosityStep → List Verbosity
  | [] => []
  | s :: rest => v.step s :: (v.step s).trace rest

end Verbosity
end NotePlot
