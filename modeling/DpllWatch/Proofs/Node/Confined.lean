import DpllWatch.Node
import DpllWatch.Proofs.Monitor.Step
import Mathlib.Tactic.SplitIfs

/-! The acts of a node's members. What a member does is its own affair: the other members, their
queues and their subscriptions stay as they are. -/

namespace DpllWatch

inductive Duty where
  | dependency
  | activation
deriving DecidableEq, Repr

namespace Role

def member : Role → Nat
  | dependency i | activation i => i

def duty : Role → Duty
  | dependency _ => .dependency
  | activation _ => .activation

end Role

/-- What a member of a node does, or what is done to it. Answers of the kernel and of the status
files come with the inputs and with the moves of the link. -/
inductive Act where
  | subscribe
  | bind (profile : Profile)
  | launch
  | notify (source : Source) (state : SyncState)
  | input (input : Monitor.Input)
  | move (move : Link.Move)
  | retire
  | teardown

namespace Subscriptions

def ofMember (subs : Subscriptions Role) (i : Nat) : Subscriptions Duty :=
  subs.filterMap fun s =>
    if s.target.member = i then some ⟨s.topic, s.id, s.target.duty⟩ else none

def unregisterAll {α : Type} (subs : Subscriptions α) (topics : List Source) (id : String) :
    Subscriptions α :=
  topics.foldl (fun subs topic => (Subscriptions.unregister subs topic id).2) subs

theorem unregister_snd {α : Type} (subs : Subscriptions α) (topic : Source) (id : String) :
    (unregister subs topic id).2 = subs.filter fun s => !(s.topic == topic && s.id == id) := rfl

theorem ofMember_append (subs later : Subscriptions Role) (i : Nat) :
    ofMember (subs ++ later) i = ofMember subs i ++ ofMember later i :=
  List.filterMap_append

theorem ofMember_cons (s : Subscription Role) (rest : Subscriptions Role) (i : Nat) :
    ofMember (s :: rest) i = if s.target.member = i then
      ⟨s.topic, s.id, s.target.duty⟩ :: ofMember rest i else ofMember rest i := by
  simp only [ofMember, List.filterMap_cons]
  split <;> split <;> simp_all

theorem ofMember_filter (keep : Source → String → Bool) (subs : Subscriptions Role) (i : Nat) :
    ofMember (subs.filter fun s => keep s.topic s.id) i =
      (ofMember subs i).filter fun s => keep s.topic s.id := by
  induction subs with
  | nil => rfl
  | cons s rest ih =>
      simp only [ofMember] at ih ⊢
      by_cases kept : keep s.topic s.id = true <;> by_cases own : s.target.member = i <;>
        simp [kept, own, ih]

theorem ofMember_matching (subs : Subscriptions Role) (i : Nat) (topic : Source) :
    ofMember (matching subs topic) i = matching (ofMember subs i) topic :=
  ofMember_filter (fun t _ => t == topic) subs i

theorem ofMember_unregister (subs : Subscriptions Role) (i : Nat) (topic : Source) (id : String) :
    ofMember (unregister subs topic id).2 i = (unregister (ofMember subs i) topic id).2 :=
  ofMember_filter (fun t name => !(t == topic && name == id)) subs i

theorem ofMember_unregisterAll (subs : Subscriptions Role) (i : Nat) (topics : List Source)
    (id : String) : ofMember (unregisterAll subs topics id) i =
      unregisterAll (ofMember subs i) topics id := by
  induction topics generalizing subs with
  | nil => rfl
  | cons topic rest ih =>
      have first := ih (unregister subs topic id).2
      rw [ofMember_unregister] at first
      exact first

theorem unregisterAll_sublist {α : Type} (subs : Subscriptions α) (topics : List Source)
    (id : String) : (unregisterAll subs topics id).Sublist subs := by
  induction topics generalizing subs with
  | nil => exact List.Sublist.refl _
  | cons topic rest ih => exact (ih _).trans List.filter_sublist

theorem unregisterAll_of_ne {α : Type} {subs : Subscriptions α} {id : String}
    (other : ∀ s ∈ subs, s.id ≠ id) (topics : List Source) :
    unregisterAll subs topics id = subs := by
  induction topics with
  | nil => rfl
  | cons topic rest ih =>
      have kept : (unregister subs topic id).2 = subs := by
        rw [unregister_snd, List.filter_eq_self]
        intro s member
        simp [other s member]
      rw [unregisterAll, List.foldl_cons, kept]
      exact ih

end Subscriptions

namespace Node

variable {σ : Type} {n n' n'' : Node σ} {i j : Nat}

/-- Starts a monitor's worker. What the worker does then are acts of their own. -/
def launch (n : Node σ) (i : Nat) : Node σ :=
  match n.living? i with
  | none => n
  | some member =>
    if member.monitor.stopping then n
    else if member.worker.isSome then n
    else if member.monitor.backend == .absent then n
    else if !canName member.monitor.settings.interface then { n with crashed := true }
    else
      match member.monitor.backend with
      | .absent => n
      | .sysfs => (n.modifyMember i ({ · with worker := some .files })).input i .activate
      | .netlink => (n.setLink i (.start (schedule n.timing))).input i .activate

def act (n : Node σ) (i : Nat) : Act → Node σ
  | .subscribe => n.subscribe i
  | .bind profile => n.bind i profile
  | .launch => n.launch i
  | .notify source state => n.notify i source state
  | .input x => n.input i x
  | .move m => n.move i m
  | .retire => n.modifyMember i ({ · with worker := none })
  | .teardown => n.teardown i

def roster (n : Node σ) : List (String × Nat) := n.members.map fun m => (m.monitor.id, m.queue)

/-- No two members subscribe under one name, and every subscription bears the name of the member
that it is for. -/
structure Named (n : Node σ) : Prop where
  names : (n.roster.map Prod.fst).Nodup
  subscriptions : ∀ s ∈ n.subscriptions, ∃ queue, n.roster[s.target.member]? = some (s.id, queue)

/-- Whatever differs from `n` to `n'` is the affair of member `j`. -/
structure Confined (n : Node σ) (j : Nat) (n' : Node σ) : Prop where
  timing : n'.timing = n.timing
  roster : n'.roster = n.roster
  members : ∀ i, i ≠ j → n'.members[i]? = n.members[i]?
  queues : ∀ queue, (∀ name, n.roster[j]? ≠ some (name, queue)) →
    n'.queues[queue]? = n.queues[queue]?
  registrations : ∀ i, i ≠ j →
    Subscriptions.ofMember n'.subscriptions i = Subscriptions.ofMember n.subscriptions i
  subscriptions : ∀ s ∈ n'.subscriptions, s ∈ n.subscriptions ∨
    s.target.member = j ∧ ∃ queue, n.roster[j]? = some (s.id, queue)

namespace Confined

theorem refl (n : Node σ) (j : Nat) : n.Confined j n :=
  ⟨rfl, rfl, fun _ _ => rfl, fun _ _ => rfl, fun _ _ => rfl, fun _ h => .inl h⟩

theorem aside (n : Node σ) (j : Nat) (sources : SourceStates) (kernel : σ) (crashed : Bool) :
    n.Confined j { n with sources := sources, kernel := kernel, crashed := crashed } :=
  ⟨rfl, rfl, fun _ _ => rfl, fun _ _ => rfl, fun _ _ => rfl, fun _ h => .inl h⟩

theorem trans (h : n.Confined j n') (h' : n'.Confined j n'') : n.Confined j n'' where
  timing := h'.timing.trans h.timing
  roster := h'.roster.trans h.roster
  members i other := (h'.members i other).trans (h.members i other)
  queues queue other := by
    rw [h'.queues queue (h.roster ▸ other), h.queues queue other]
  registrations i other := (h'.registrations i other).trans (h.registrations i other)
  subscriptions s later := by
    rcases h'.subscriptions s later with earlier | own
    · exact h.subscriptions s earlier
    · exact .inr (h.roster ▸ own)

theorem named (h : n.Confined j n') (named : n.Named) : n'.Named where
  names := h.roster ▸ named.names
  subscriptions s later := by
    rw [h.roster]
    rcases h.subscriptions s later with earlier | ⟨rfl, own⟩
    · exact named.subscriptions s earlier
    · exact own

end Confined

theorem subscribe_eq {member : Member} (living : n.living? i = some member) :
    ∃ sources, n.subscribe i = { n with
      sources := sources
      subscriptions := n.subscriptions ++ member.monitor.settings.dependsOn.map fun source =>
        ⟨source, member.monitor.id, .dependency i⟩ } := by
  simp only [subscribe, living]
  generalize member.monitor.settings.dependsOn = topics
  clear living
  induction topics generalizing n with
  | nil => exact ⟨n.sources, by simp⟩
  | cons topic rest ih =>
      obtain ⟨sources, later⟩ := ih (n := { n with
        sources := n.sources.register topic
        subscriptions :=
          Subscriptions.register n.subscriptions ⟨topic, member.monitor.id, .dependency i⟩ })
      refine ⟨sources, ?_⟩
      rw [List.foldl_cons, later]
      simp [Subscriptions.register]

/-! ## What a member does stays with it -/

theorem members_of_living? {member : Member} (h : n.living? j = some member) :
    n.members[j]? = some member :=
  (Option.filter_eq_some_iff.1 h).1

theorem roster_of_members {member : Member} (h : n.members[j]? = some member) :
    n.roster[j]? = some (member.monitor.id, member.queue) := by
  rw [roster, List.getElem?_map, h]
  rfl

theorem Named.eq {name : String} {queue queue' : Nat} (named : n.Named)
    (hi : n.roster[i]? = some (name, queue)) (hj : n.roster[j]? = some (name, queue')) : i = j := by
  have inside : i < (n.roster.map Prod.fst).length := by
    rw [List.length_map]
    exact (List.getElem?_eq_some_iff.1 hi).1
  refine (List.getElem?_inj inside named.names).1 ?_
  rw [List.getElem?_map, List.getElem?_map, hi, hj]
  rfl

namespace Confined

theorem modify {f : Member → Member}
    (same : ∀ member, n.members[j]? = some member →
      (f member).monitor.id = member.monitor.id ∧ (f member).queue = member.queue) :
    n.Confined j (n.modifyMember j f) where
  timing := rfl
  roster := by
    refine List.ext_getElem? fun k => ?_
    simp only [Node.roster, modifyMember, List.getElem?_map, List.getElem?_modify]
    cases member : n.members[k]? with
    | none => rfl
    | some member' =>
        by_cases own : j = k
        · subst own
          simp [same member' member]
        · simp [own]
  members i other := by simp [modifyMember, other.symm]
  queues _ _ := rfl
  registrations _ _ := rfl
  subscriptions _ h := .inl h

theorem offer {name : String} {queue : Nat} (entry : n.roster[j]? = some (name, queue))
    (reports : List Report) : n.Confined j (n.offer queue reports) where
  timing := rfl
  roster := rfl
  members _ _ := rfl
  queues other foreign := by
    have differs : queue ≠ other := by
      rintro rfl
      exact foreign name entry
    simp [Node.offer, differs]
  registrations _ _ := rfl
  subscriptions _ h := .inl h

theorem input (n : Node σ) (j : Nat) (x : Monitor.Input) : n.Confined j (n.input j x) := by
  rw [Node.input]
  cases living : n.living? j with
  | none => exact refl n j
  | some member =>
      have found := members_of_living? living
      have changed : n.Confined j
          (n.modifyMember j ({ · with monitor := (member.monitor.step x).1 })) := by
        refine modify fun member' found' => ⟨?_, rfl⟩
        rw [found, Option.some.injEq] at found'
        rw [Monitor.id, Monitor.step_settings, ← found', Monitor.id]
      have entry := roster_of_members found
      rw [← changed.roster] at entry
      exact changed.trans (offer entry _)

theorem hire (n : Node σ) (j : Nat) (worker : Option Worker) :
    n.Confined j (n.modifyMember j ({ · with worker := worker })) :=
  modify fun _ _ => ⟨rfl, rfl⟩

theorem register {name : String} {queue : Nat} (entry : n.roster[j]? = some (name, queue))
    {later : Subscriptions Role} (own : ∀ s ∈ later, s.target.member = j ∧ s.id = name) :
    n.Confined j { n with subscriptions := n.subscriptions ++ later } where
  timing := rfl
  roster := rfl
  members _ _ := rfl
  queues _ _ := rfl
  registrations i other := by
    have none : Subscriptions.ofMember later i = [] := by
      rw [Subscriptions.ofMember, List.filterMap_eq_nil_iff]
      intro s member
      rw [if_neg ((own s member).1 ▸ other.symm)]
    rw [Subscriptions.ofMember_append, none, List.append_nil]
  subscriptions s h := by
    rcases List.mem_append.1 h with earlier | member
    · exact .inl earlier
    · exact .inr ⟨(own s member).1, queue, (own s member).2 ▸ entry⟩

theorem unregister (named : n.Named) {name : String} {queue : Nat}
    (entry : n.roster[j]? = some (name, queue)) (topics : List Source) :
    n.Confined j { n with subscriptions := n.subscriptions.unregisterAll topics name } where
  timing := rfl
  roster := rfl
  members _ _ := rfl
  queues _ _ := rfl
  registrations i other := by
    rw [Subscriptions.ofMember_unregisterAll, Subscriptions.unregisterAll_of_ne]
    -- A subscription of another member bears that member's name.
    intro s member same
    obtain ⟨s', member', own⟩ := List.mem_filterMap.1 member
    rw [Option.ite_none_right_eq_some, Option.some.injEq] at own
    obtain ⟨rfl, rfl⟩ := own
    obtain ⟨queue', entry'⟩ := named.subscriptions s' member'
    rw [show s'.id = name from same] at entry'
    exact other (named.eq entry' entry)
  subscriptions s h := .inl ((Subscriptions.unregisterAll_sublist _ _ _).mem h)

theorem teardown (named : n.Named) (j : Nat) : n.Confined j (n.teardown j) := by
  rw [Node.teardown]
  cases living : n.living? j with
  | none => exact refl n j
  | some member =>
      have ended := input n j .teardown
      have entry := roster_of_members (members_of_living? living)
      rw [← ended.roster] at entry
      dsimp only
      split
      · exact ended
      · exact ended.trans (unregister (ended.named named) entry _)

theorem effect (named : n.Named) (j : Nat) (e : Link.Effect) : n.Confined j (n.effect j e) := by
  cases e with
  | ingest devices => exact input n j (.ingest devices)
  | teardown => exact teardown named j
  | close => exact aside n j n.sources _ n.crashed
  | wait => exact refl n j

theorem effects (named : n.Named) (j : Nat) (effects : List Link.Effect) :
    n.Confined j (effects.foldl (fun n e => n.effect j e) n) := by
  induction effects generalizing n with
  | nil => exact refl n j
  | cons e rest ih =>
      have first := effect named j e
      exact first.trans (ih (first.named named))

theorem move (named : n.Named) (j : Nat) (m : Link.Move) : n.Confined j (n.move j m) := by
  rw [Node.move]
  split
  · exact refl n j
  · next l made _ =>
    have moved := hire n j (some (.link l))
    exact moved.trans (effects (moved.named named) j made)

theorem subscribe (n : Node σ) (j : Nat) : n.Confined j (n.subscribe j) := by
  cases living : n.living? j with
  | none =>
      rw [Node.subscribe, living]
      exact refl n j
  | some member =>
      obtain ⟨sources, subscribed⟩ := subscribe_eq living
      rw [subscribed]
      have entry := roster_of_members (members_of_living? living)
      refine (aside n j sources n.kernel n.crashed).trans
        (register (n := { n with sources := sources }) entry ?_)
      intro s own
      obtain ⟨source, _, rfl⟩ := List.mem_map.1 own
      exact ⟨rfl, rfl⟩

theorem bind (n : Node σ) (j : Nat) (profile : Profile) : n.Confined j (n.bind j profile) := by
  rw [Node.bind]
  cases living : n.living? j with
  | none => exact refl n j
  | some member =>
      have bound := input n j (.bind profile)
      have entry := roster_of_members (members_of_living? living)
      rw [← bound.roster] at entry
      refine bound.trans (register entry ?_)
      intro s own
      obtain rfl := List.mem_singleton.1 own
      exact ⟨rfl, rfl⟩

theorem launch (n : Node σ) (j : Nat) : n.Confined j (n.launch j) := by
  rw [Node.launch]
  split
  · exact refl n j
  split_ifs
  · exact refl n j
  · exact refl n j
  · exact refl n j
  · exact aside n j n.sources n.kernel true
  · split
    · exact refl n j
    · exact (hire n j _).trans (input _ j .activate)
    · exact (hire n j _).trans (input _ j .activate)

theorem notify (n : Node σ) (j : Nat) (source : Source) (state : SyncState) :
    n.Confined j (n.notify j source state) := by
  rw [Node.notify]
  split
  · exact refl n j
  split
  · exact (aside n j _ n.kernel n.crashed).trans (input _ j (.notify source state))
  · exact refl n j

theorem act (named : n.Named) (j : Nat) (a : Act) : n.Confined j (n.act j a) := by
  cases a with
  | subscribe => exact subscribe n j
  | bind profile => exact bind n j profile
  | launch => exact launch n j
  | notify source state => exact notify n j source state
  | input x => exact input n j x
  | move m => exact move named j m
  | retire => exact hire n j none
  | teardown => exact teardown named j

end Confined

end Node

end DpllWatch
