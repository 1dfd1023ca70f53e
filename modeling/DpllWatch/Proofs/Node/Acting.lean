import DpllWatch.Proofs.Node.Seat

/-! Whatever a node's operations do to a member is done by acts. The kernel decides which acts they
are, and nothing besides. -/

namespace DpllWatch.Node

variable {σ : Type} {n n' n'' : Node σ} {i : Nat}

def withKernel (n : Node σ) (kernel : σ) : Node σ := { n with kernel := kernel }

theorem input_withKernel (n : Node σ) (kernel : σ) (i : Nat) (x : Monitor.Input) :
    (n.withKernel kernel).input i x = (n.input i x).withKernel kernel := by
  have living : (n.withKernel kernel).living? i = n.living? i := rfl
  rw [input, input, living]
  cases n.living? i <;> rfl

theorem teardown_withKernel (n : Node σ) (kernel : σ) (i : Nat) :
    (n.withKernel kernel).teardown i = (n.teardown i).withKernel kernel := by
  have living : (n.withKernel kernel).living? i = n.living? i := rfl
  rw [teardown, teardown, living]
  cases n.living? i with
  | none => rfl
  | some member =>
      dsimp only
      rw [input_withKernel]
      split <;> rfl

theorem effects_withKernel (n : Node σ) (kernel : σ) (i : Nat) (effects : List Link.Effect) :
    ∃ kernel', effects.foldl (fun n e => n.effect i e) (n.withKernel kernel) =
      (effects.foldl (fun n e => n.effect i e) n).withKernel kernel' := by
  induction effects generalizing n kernel with
  | nil => exact ⟨kernel, rfl⟩
  | cons e rest ih =>
      obtain ⟨kernel', same⟩ : ∃ kernel', (n.withKernel kernel).effect i e =
          (n.effect i e).withKernel kernel' := by
        cases e with
        | ingest devices => exact ⟨kernel, input_withKernel n kernel i (.ingest devices)⟩
        | teardown => exact ⟨kernel, teardown_withKernel n kernel i⟩
        | close c => exact ⟨n.transport.close c kernel, rfl⟩
        | wait => exact ⟨kernel, rfl⟩
      rw [List.foldl_cons, List.foldl_cons, same]
      exact ih _ kernel'

theorem move_withKernel (n : Node σ) (kernel : σ) (i : Nat) (m : Link.Move) :
    ∃ kernel', (n.withKernel kernel).move i m = (n.move i m).withKernel kernel' := by
  have linked : (n.withKernel kernel).link? i = n.link? i := rfl
  rw [move, move, linked]
  cases (n.link? i).bind (·.step m) with
  | none => exact ⟨kernel, rfl⟩
  | some made => exact effects_withKernel (n.setLink i made.1) kernel i made.2

theorem launch_withKernel (n : Node σ) (kernel : σ) (i : Nat) :
    (n.withKernel kernel).launch i = (n.launch i).withKernel kernel := by
  have living : (n.withKernel kernel).living? i = n.living? i := rfl
  rw [launch, launch, living]
  cases n.living? i with
  | none => rfl
  | some member =>
      dsimp only
      split_ifs
      all_goals try rfl
      cases member.monitor.backend with
      | absent => rfl
      | sysfs => exact input_withKernel (n.modifyMember i _) kernel i .activate
      | netlink => exact input_withKernel (n.setLink i _) kernel i .activate

theorem subscribe_withKernel (n : Node σ) (kernel : σ) (i : Nat) :
    (n.withKernel kernel).subscribe i = (n.subscribe i).withKernel kernel := by
  have living : (n.withKernel kernel).living? i = n.living? i := rfl
  rw [subscribe, subscribe, living]
  cases n.living? i with
  | none => rfl
  | some member =>
      dsimp only
      generalize member.monitor.settings.dependsOn = topics
      clear living
      induction topics generalizing n with
      | nil => rfl
      | cons topic rest ih =>
          exact ih { n with
            sources := n.sources.register topic
            subscriptions := Subscriptions.register n.subscriptions
              ⟨topic, member.monitor.id, .dependency i⟩ }

theorem act_withKernel (n : Node σ) (kernel : σ) (i : Nat) (a : Act) :
    ∃ kernel', (n.withKernel kernel).act i a = (n.act i a).withKernel kernel' := by
  have living : (n.withKernel kernel).living? i = n.living? i := rfl
  cases a with
  | subscribe => exact ⟨kernel, subscribe_withKernel n kernel i⟩
  | bind profile =>
      refine ⟨kernel, ?_⟩
      simp only [act, bind, living, input_withKernel]
      cases n.living? i <;> rfl
  | launch => exact ⟨kernel, launch_withKernel n kernel i⟩
  | notify source state =>
      refine ⟨kernel, ?_⟩
      rw [act, act, notify, notify, living]
      cases n.living? i with
      | none => rfl
      | some member =>
          dsimp only
          split
          · exact input_withKernel { n with sources := _ } kernel i (.notify source state)
          · rfl
  | input x => exact ⟨kernel, input_withKernel n kernel i x⟩
  | move m => exact move_withKernel n kernel i m
  | retire => exact ⟨kernel, rfl⟩
  | teardown => exact ⟨kernel, teardown_withKernel n kernel i⟩

theorem start_eq_launch (n : Node σ) (i : Nat) :
    (n.start i).2 = n.launch i ∨ (n.start i).2 = (n.launch i).poll i ∨
      (n.start i).2 = (n.launch i).settle i := by
  rw [start, launch]
  cases n.living? i with
  | none => exact .inl rfl
  | some member =>
      dsimp only
      split_ifs
      all_goals try exact .inl rfl
      cases member.monitor.backend with
      | absent => exact .inl rfl
      | sysfs => exact .inr (.inl rfl)
      | netlink => exact .inr (.inr rfl)

def actAll (n : Node σ) (i : Nat) (acts : List Act) : Node σ := acts.foldl (fun n a => n.act i a) n

theorem actAll_withKernel (n : Node σ) (kernel : σ) (i : Nat) (acts : List Act) :
    ∃ kernel', (n.withKernel kernel).actAll i acts = (n.actAll i acts).withKernel kernel' := by
  induction acts generalizing n kernel with
  | nil => exact ⟨kernel, rfl⟩
  | cons a rest ih =>
      obtain ⟨kernel', same⟩ := act_withKernel n kernel i a
      obtain ⟨kernel'', later⟩ := ih (n.act i a) kernel'
      refine ⟨kernel'', ?_⟩
      rw [actAll, List.foldl_cons, same]
      exact later

/-- Acts of member `i` lead from `n` to `n'`; the kernel may have gone on besides. -/
def Acted (n : Node σ) (i : Nat) (n' : Node σ) : Prop :=
  ∃ acts kernel, n' = (n.actAll i acts).withKernel kernel

namespace Acted

theorem refl (n : Node σ) (i : Nat) : n.Acted i n := ⟨[], n.kernel, rfl⟩

theorem act (n : Node σ) (i : Nat) (a : Act) : n.Acted i (n.act i a) :=
  ⟨[a], (n.act i a).kernel, rfl⟩

theorem trans (h : n.Acted i n') (h' : n'.Acted i n'') : n.Acted i n'' := by
  obtain ⟨acts, kernel, rfl⟩ := h
  obtain ⟨acts', kernel', rfl⟩ := h'
  obtain ⟨kernel'', same⟩ := actAll_withKernel (n.actAll i acts) kernel i acts'
  refine ⟨acts ++ acts', kernel', ?_⟩
  rw [same, actAll, actAll, actAll, List.foldl_append]
  rfl

theorem of_withKernel {kernel : σ} (h : (n.withKernel kernel).Acted i n') : n.Acted i n' :=
  trans ⟨[], kernel, rfl⟩ h

theorem poll (n : Node σ) (i : Nat) : n.Acted i (n.poll i) := by
  rw [Node.poll]
  split
  · exact refl n i
  · next member _ =>
    exact act n i (.input (.sample (StatusFiles.read n.files n.timing.statusRoot
      member.monitor.settings.interface)))

theorem resolve (n : Node σ) (i : Nat) : n.Acted i (n.resolve i).2 := by
  rw [Node.resolve]
  split
  · exact refl n i
  · exact of_withKernel (act _ i (.input (.resolved _)))

theorem settleFor (budget : Nat) (n : Node σ) (i : Nat) : n.Acted i (n.settleFor budget i) := by
  induction budget generalizing n with
  | zero => exact refl n i
  | succ budget ih =>
      rw [Node.settleFor]
      -- The kernel answers first, and its answer is in the move.
      split
      · exact refl n i
      · exact of_withKernel ((act _ i (.move _)).trans (ih _))

theorem start (n : Node σ) (i : Nat) : n.Acted i (n.start i).2 := by
  have launched := act n i .launch
  rcases n.start_eq_launch i with same | polled | settled
  · exact same ▸ launched
  · exact polled ▸ launched.trans (poll _ i)
  · exact settled ▸ launched.trans (settleFor _ _ i)

theorem redial (n : Node σ) (i : Nat) : n.Acted i (n.redial i) :=
  (act n i (.move .waited)).trans (settleFor _ _ i)

theorem stop (n : Node σ) (i : Nat) : n.Acted i (n.stop i) := by
  have asked := act n i (.input .beginStop)
  have ends {n' : Node σ} (ended : n.Acted i n') :
      n.Acted i ((n'.modifyMember i ({ · with worker := none })).teardown i) :=
    (ended.trans (act _ i .retire)).trans (act _ i .teardown)
  rw [Node.stop]
  refine ends ?_
  split
  · exact (asked.trans (act _ i (.move .stopAsked))).trans (settleFor _ _ i)
  · exact asked

theorem confined (h : n.Acted i n') (named : n.Named) : n.Confined i n' := by
  obtain ⟨acts, kernel, rfl⟩ := h
  have acted : n.Confined i (n.actAll i acts) := by
    induction acts generalizing n with
    | nil => exact Confined.refl n i
    | cons a rest ih =>
        have first := Confined.act named i a
        exact first.trans (ih (first.named named))
  exact acted.trans (Confined.aside _ i _ kernel _)

theorem seats {queue : Nat} {m : Monitor} {initial : Option (EventQueue Report)} {s : Seat m}
    (h : n.Acted i n') (seats : n.Seats i queue initial s) :
    ∃ acts : List Act, n'.Seats i queue initial (acts.foldl Seat.act s) := by
  obtain ⟨acts, kernel, rfl⟩ := h
  have acted : (n.actAll i acts).Seats i queue initial (acts.foldl Seat.act s) := by
    induction acts generalizing n s with
    | nil => exact seats
    | cons a rest ih => exact ih (seats.act a)
  exact ⟨acts, acted.aside _ kernel _⟩

end Acted

end DpllWatch.Node
