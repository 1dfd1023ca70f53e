import DpllWatch.Event
import DpllWatch.Window

/-! The PTP process that a clock is attached to. -/

namespace DpllWatch

structure Profile where
  name : String
  clockKind : ClockKind
  window : Window
deriving DecidableEq, Repr

namespace Profile

def standard : Profile := ⟨"", .grandmaster, .standard⟩

end Profile

end DpllWatch
