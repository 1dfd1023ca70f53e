/-! The processes that report a sync state, and tables with one entry for each of them. -/

namespace DpllWatch

inductive Source where
  | dpll
  | gnss
  | ts2phc
  | ptp4l
  | phc2sys
  | monitoring
deriving DecidableEq, Repr, Inhabited

namespace Source

def all : List Source := [dpll, gnss, ts2phc, ptp4l, phc2sys, monitoring]

theorem mem_all (s : Source) : s ∈ all := by cases s <;> simp [all]

def rank : Source → Nat
  | dpll => 0
  | gnss => 1
  | ts2phc => 2
  | ptp4l => 3
  | phc2sys => 4
  | monitoring => 5

def name : Source → String
  | dpll => "dpll"
  | gnss => "gnss"
  | ts2phc => "ts2phc"
  | ptp4l => "ptp4l"
  | phc2sys => "phc2sys"
  | monitoring => "monitoring"

end Source

structure PerSource (α : Type) where
  dpll : α
  gnss : α
  ts2phc : α
  ptp4l : α
  phc2sys : α
  monitoring : α
deriving DecidableEq, Repr, Inhabited

namespace PerSource

variable {α : Type}

def const (a : α) : PerSource α := ⟨a, a, a, a, a, a⟩

def get (t : PerSource α) : Source → α
  | .dpll => t.dpll
  | .gnss => t.gnss
  | .ts2phc => t.ts2phc
  | .ptp4l => t.ptp4l
  | .phc2sys => t.phc2sys
  | .monitoring => t.monitoring

def set (t : PerSource α) (s : Source) (a : α) : PerSource α :=
  match s with
  | .dpll => { t with dpll := a }
  | .gnss => { t with gnss := a }
  | .ts2phc => { t with ts2phc := a }
  | .ptp4l => { t with ptp4l := a }
  | .phc2sys => { t with phc2sys := a }
  | .monitoring => { t with monitoring := a }

@[simp] theorem get_const (a : α) (s : Source) : (const a).get s = a := by cases s <;> rfl

@[simp] theorem get_set_self (t : PerSource α) (s : Source) (a : α) : (t.set s a).get s = a := by
  cases s <;> rfl

theorem get_set (t : PerSource α) (s r : Source) (a : α) :
    (t.set s a).get r = if r = s then a else t.get r := by
  cases s <;> cases r <;> rfl

@[simp] theorem set_get (t : PerSource α) (s : Source) : t.set s (t.get s) = t := by
  cases s <;> rfl

theorem ext_get {t u : PerSource α} (h : ∀ s, t.get s = u.get s) : t = u := by
  cases t; cases u
  simp only [mk.injEq]
  exact ⟨h .dpll, h .gnss, h .ts2phc, h .ptp4l, h .phc2sys, h .monitoring⟩

def toList (t : PerSource α) : List (Source × α) := Source.all.map fun s => (s, t.get s)

end PerSource

end DpllWatch
