import DpllWatch.StatusFiles

/-! Where a clock's status is read from, chosen once when a monitor starts. -/

namespace DpllWatch

inductive Backend where
  | sysfs
  | netlink
  | absent
deriving DecidableEq, Repr, Inhabited

namespace Backend

def all : List Backend := [sysfs, netlink, absent]

theorem mem_all (b : Backend) : b ∈ all := by cases b <;> simp [all]

def name : Backend → String
  | sysfs => "sysfs"
  | netlink => "netlink"
  | absent => "none"

/-- Status files come first. The kernel is asked only if there are none: `probe` asks it and leaves
behind what has changed by asking. -/
def resolve {σ : Type} (files : FileTree) (root interface : String) (probe : σ → Bool × σ)
    (s : σ) : Backend × σ :=
  if StatusFiles.isPresent files root interface then (sysfs, s)
  else
    let (found, s) := probe s
    (if found then netlink else absent, s)

end Backend

end DpllWatch
