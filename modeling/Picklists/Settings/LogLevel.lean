import Picklists.Failure
import Picklists.Text.Casing

/-!
# Log levels

The numbers of log levels by name, as the log is set up with them.
-/

namespace Picklists

namespace LogLevel

/-- The levels by their names. -/
def named : List (String × Int) :=
  [("CRITICAL", 50), ("FATAL", 50), ("ERROR", 40), ("WARNING", 30), ("WARN", 30), ("INFO", 20),
   ("DEBUG", 10), ("NOTSET", 0)]

/-- The level that counts if a name is not known. -/
def standard : Int := 20

/-- A name that stands for the simplest form of a line, and that form. -/
def basicForm : String × String := ("BASIC_FORMAT", "%(levelname)s:%(name)s:%(message)s")

/-- A name that stands for a table. -/
def tableName : String := "_STYLES"

/-- The form of a line of the log. -/
def lineForm : String := "%(asctime)s - %(name)s - %(levelname)s - %(message)s"

/-- The number of the level that a name stands for, in whatever case it is written. Two names of
the same namespace stand for something else and are refused. -/
def ofName (name : String) : Except Failure Int :=
  let upper := String.ofList (name.toList.flatMap Text.levelUpper)
  match named.find? (·.1 == upper) with
  | some (_, level) => .ok level
  | none =>
    if upper = basicForm.1 then .error (.levelText basicForm.2)
    else if upper = tableName then .error .levelOther
    else .ok standard

end LogLevel

end Picklists
