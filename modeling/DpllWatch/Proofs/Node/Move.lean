import DpllWatch.Node

/-! What a move of a monitor's link does to the node: the link goes on, the monitor takes what is
handed on to it, and the kernel loses the connections that are closed. -/

namespace DpllWatch

def Monitor.feel (m : Monitor) : Link.Effect → Monitor
  | .ingest devices => (m.step (.ingest devices)).1
  | .teardown => (m.step .teardown).1
  | .close _ | .wait _ => m

def Transport.feel {σ : Type} (t : Transport σ) (kernel : σ) : Link.Effect → σ
  | .close connection => t.close connection kernel
  | .ingest _ | .teardown | .wait _ => kernel

namespace Node

variable {σ : Type} {n n' : Node σ} {i : Nat} {m m' : Monitor} {l l' : Link} {move : Link.Move}
  {effects : List Link.Effect}

/-- Member `i` is a monitor that its owner holds and that a link feeds. -/
def Hosts (n : Node σ) (i : Nat) (m : Monitor) (l : Link) : Prop :=
  ∃ queue, n.members[i]? = some ⟨m, some (.link l), queue, false⟩

theorem Hosts.unique (h : n.Hosts i m l) (h' : n.Hosts i m' l') : m = m' ∧ l = l' := by
  obtain ⟨queue, member⟩ := h
  obtain ⟨queue', member'⟩ := h'
  rw [member] at member'
  cases member'
  exact ⟨rfl, rfl⟩

theorem Hosts.living? (h : n.Hosts i m l) :
    ∃ queue, n.living? i = some ⟨m, some (.link l), queue, false⟩ := by
  obtain ⟨queue, member⟩ := h
  exact ⟨queue, by simp [Node.living?, member, Member.isAlive]⟩

theorem Hosts.link? (h : n.Hosts i m l) : n.link? i = some l := by
  obtain ⟨queue, member⟩ := h
  simp [Node.link?, member]

structure Becomes (n : Node σ) (i : Nat) (m : Monitor) (l : Link) (kernel : σ) (n' : Node σ) :
    Prop where
  hosts : n'.Hosts i m l
  kernel : n'.kernel = kernel
  transport : n'.transport = n.transport

theorem Hosts.setLink (h : n.Hosts i m l) (l' : Link) :
    n.Becomes i m l' n.kernel (n.setLink i l') := by
  obtain ⟨queue, member⟩ := h
  exact ⟨⟨queue, by simp [Node.setLink, modifyMember, member]⟩, rfl, rfl⟩

theorem Hosts.input (h : n.Hosts i m l) (input : Monitor.Input) :
    n.Becomes i (m.step input).1 l n.kernel (n.input i input) := by
  obtain ⟨_, living⟩ := h.living?
  obtain ⟨queue, member⟩ := h
  simp only [Node.input, living]
  exact ⟨⟨queue, by simp [offer, modifyMember, member]⟩, rfl, rfl⟩

theorem Hosts.teardown (h : n.Hosts i m l) :
    n.Becomes i (m.step .teardown).1 l n.kernel (n.teardown i) := by
  obtain ⟨_, living⟩ := h.living?
  have ended := h.input .teardown
  simp only [Node.teardown, living]
  split
  · exact ended
  -- Dropping the subscriptions touches neither members nor kernel.
  · exact ⟨ended.hosts, ended.kernel, ended.transport⟩

theorem Hosts.effect (h : n.Hosts i m l) (e : Link.Effect) :
    n.Becomes i (m.feel e) l (n.transport.feel n.kernel e) (n.effect i e) := by
  cases e with
  | ingest devices => exact h.input (.ingest devices)
  | teardown => exact h.teardown
  | close => exact ⟨h, rfl, rfl⟩
  | wait => exact ⟨h, rfl, rfl⟩

theorem Hosts.all_effects (h : n.Hosts i m l) (effects : List Link.Effect) :
    n.Becomes i (effects.foldl Monitor.feel m) l (effects.foldl n.transport.feel n.kernel)
      (effects.foldl (fun n e => n.effect i e) n) := by
  induction effects generalizing n m with
  | nil => exact ⟨h, rfl, rfl⟩
  | cons e rest ih =>
      have first := h.effect e
      have later := ih first.hosts
      rw [first.transport, first.kernel] at later
      exact ⟨later.hosts, later.kernel, later.transport.trans first.transport⟩

theorem Hosts.moves (h : n.Hosts i m l) (made : l.step move = some (l', effects)) :
    n.Becomes i (effects.foldl Monitor.feel m) l' (effects.foldl n.transport.feel n.kernel)
      (n.move i move) := by
  have moved := h.setLink l'
  have felt := moved.hosts.all_effects effects
  rw [moved.transport, moved.kernel] at felt
  simp only [Node.move, h.link?, Option.bind_some, made]
  exact ⟨felt.hosts, felt.kernel, felt.transport.trans moved.transport⟩

end Node

end DpllWatch
