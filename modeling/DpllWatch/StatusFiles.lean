import DpllWatch.Files.Path
import DpllWatch.Files.Tree
import DpllWatch.Text.Blank
import DpllWatch.Text.Decimal

/-! The files in which a driver shows the status of its clock, one number in each. -/

namespace DpllWatch

structure Sample where
  frequencyStatus : Option Int64
  phaseStatus : Option Int64
  phaseOffset : Option Int64
deriving DecidableEq, Repr

namespace Sample

def nothing : Sample := ⟨none, none, none⟩

end Sample

namespace StatusFiles

def devicePath (root interface file : String) : String :=
  Path.join (Path.join (Path.join root interface) "device") file

def frequencyPath (root interface : String) : String := devicePath root interface "dpll_0_state"

def phasePath (root interface : String) : String := devicePath root interface "dpll_1_state"

def offsetPath (root interface : String) : String := devicePath root interface "dpll_1_offset"

def isPresent (files : FileTree) (root interface : String) : Bool :=
  !interface.isEmpty && files.isPresent (frequencyPath root interface)

def number? (files : FileTree) (path : String) : Option Int64 := do
  let text ← (files.readText path).toOption
  (Text.readInt64 (Text.trim text.toList)).toOption

/-- The offset file counts in hundredths of a nanosecond; the rest is cut off toward zero. -/
def read (files : FileTree) (root interface : String) : Sample :=
  if interface.isEmpty then .nothing
  else
    { frequencyStatus := number? files (frequencyPath root interface)
      phaseStatus := number? files (phasePath root interface)
      phaseOffset := (number? files (offsetPath root interface)).map (· / 100) }

end StatusFiles

end DpllWatch
