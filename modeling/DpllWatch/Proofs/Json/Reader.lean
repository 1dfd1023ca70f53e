import DpllWatch.Json.Reader
import DpllWatch.Proofs.Json.Token

/-! A printed value is read as itself, and is printed on one line. A value may stand in an array or
object that is still open, so both are said of the state of the reader in front of it. -/

namespace DpllWatch.Json

/-- All numbers in the value are integers. -/
inductive Exact : Json → Prop where
  | null : Exact .null
  | bool (value : Bool) : Exact (.bool value)
  | int (value : Int) : Exact (.int value)
  | string (text : Option String) : Exact (.string text)
  | array {items : List Json} : (∀ item ∈ items, Exact item) → Exact (.array items)
  | object {members : List (Option String × Json)} :
      (∀ m ∈ members, Exact m.2) → Exact (.object members)

theorem isSpace_of_token? {c : Char} {tail rest : List Char} {token : Token}
    (first : token? (c :: tail) = some (token, rest)) : isSpace c = false := by
  cases space : isSpace c with
  | false => rfl
  | true =>
      simp only [isSpace, Bool.or_eq_true, beq_iff_eq] at space
      rcases space with ((rfl | rfl) | rfl) | rfl <;> nomatch first

theorem tokens?_of_token? {s rest : List Char} {token : Token}
    (first : token? s = some (token, rest)) : tokens? s = (tokens? rest).map (token :: ·) := by
  cases s with
  | nil => nomatch first
  | cons c tail =>
      have kept : (c :: tail).dropWhile isSpace = c :: tail :=
        List.dropWhile_cons_of_neg (by rw [isSpace_of_token? first]; decide)
      rw [tokens?]
      split
      next none => exact absurd (kept.symm.trans none) (List.cons_ne_nil _ _)
      next c' tail' some =>
        obtain ⟨rfl, rfl⟩ := List.cons.inj (kept.symm.trans some)
        split
        next none => exact absurd (first.symm.trans none) (Option.some_ne_none _)
        next token' rest' some =>
          cases first.symm.trans some
          rfl

namespace Progress

def read? (p : Progress) (s : List Char) : Option Progress := do
  let tokens ← tokens? s
  tokens.foldlM feed? p

variable {p p' : Progress} {stack : List Frame} {s rest : List Char} {token : Token}

theorem read?_of_token? (first : token? s = some (token, rest)) (fed : p.feed? token = some p') :
    p.read? s = p'.read? rest := by
  rw [read?, read?, tokens?_of_token? first]
  cases tokens? rest with
  | none => rfl
  | some tokens => simp [fed]

def Awaits (p : Progress) : Prop := p.expect = .value ∨ p.expect = .valueOrEnd

theorem feed?_of_awaits (awaits : p.Awaits) (begun : begin? p.stack token = some p') :
    p.feed? token = some p' := by
  obtain ⟨stack, expect⟩ := p
  rcases awaits with rfl | rfl
  · exact begun
  · cases token with
    | closeBracket => nomatch begun
    | _ => rcases stack with _ | ⟨_ | _, _⟩ <;> exact begun

/-- Printed where a value may come next, the value is read as itself. -/
def Legible (v : Json) : Prop :=
  ∀ {p : Progress}, p.Awaits → ∀ {rest : List Char}, EndsNumber rest →
    p.read? (v.print ++ rest) = (deliver p.stack v).read? rest

theorem legible_of_token? {v : Json} {token : Token}
    (first : ∀ {rest}, EndsNumber rest → token? (v.print ++ rest) = some (token, rest))
    (begun : ∀ stack, begin? stack token = some (deliver stack v)) : Legible v :=
  fun awaits _ ends => read?_of_token? (first ends) (feed?_of_awaits awaits (begun _))

theorem endsNumber_cons {c : Char} (mark : c ∈ [',', ']', '\x7d']) (rest : List Char) :
    EndsNumber (c :: rest) := by
  intro c' first
  cases first
  simp only [List.mem_cons, List.not_mem_nil, or_false] at mark
  rcases mark with rfl | rfl | rfl <;> decide

theorem read?_printItems {items : List Json} (legible : ∀ item ∈ items, Legible item)
    (some : items ≠ []) {read : List Json} (p : Progress) (awaits : p.Awaits)
    (inside : p.stack = .items read :: stack) (rest : List Char) :
    p.read? (printItems items ++ ']' :: rest) =
      (deliver stack (.array (read.reverse ++ items))).read? rest := by
  induction items generalizing p read with
  | nil => exact absurd rfl some
  | cons item later ih =>
      rw [List.forall_mem_cons] at legible
      cases later with
      | nil =>
          rw [printItems, legible.1 awaits (endsNumber_cons (by decide) rest), inside,
            ← List.reverse_cons]
          exact read?_of_token? rfl rfl
      | cons next later =>
          have more := ih legible.2 (List.cons_ne_nil _ _) ⟨.items (item :: read) :: stack, .value⟩
            (.inl rfl) rfl
          rw [List.reverse_cons, List.append_assoc, List.singleton_append] at more
          rw [printItems, List.append_assoc, List.cons_append,
            legible.1 awaits (endsNumber_cons (by decide) _), inside, ← more]
          · exact read?_of_token? rfl rfl
          · nofun

theorem read?_printMembers {members : List (Option String × Json)}
    (legible : ∀ m ∈ members, Legible m.2) (some : members ≠ [])
    {read : List (Option String × Json)} (p : Progress)
    (awaits : p = ⟨stack, .keyOrEnd read⟩ ∨ p = ⟨stack, .key read⟩) (rest : List Char) :
    p.read? (printMembers members ++ '\x7d' :: rest) =
      (deliver stack (.object (read.reverse ++ members))).read? rest := by
  induction members generalizing p read with
  | nil => exact absurd rfl some
  | cons m later ih =>
      obtain ⟨key, item⟩ := m
      rw [List.forall_mem_cons] at legible
      have entered (s : List Char) : p.read? (quoteText key ++ ':' :: s) =
          read? ⟨.members read key :: stack, .value⟩ s := by
        have keyed : p.feed? (.string key) = .some ⟨stack, .colon read key⟩ := by
          rcases awaits with rfl | rfl <;> rfl
        rw [read?_of_token? (token?_quoteText key _) keyed]
        exact read?_of_token? rfl rfl
      cases later with
      | nil =>
          rw [printMembers, List.append_assoc, List.cons_append, entered,
            legible.1 (.inl rfl) (endsNumber_cons (by decide) rest), ← List.reverse_cons]
          exact read?_of_token? rfl rfl
      | cons next later =>
          have more := ih legible.2 (List.cons_ne_nil _ _) ⟨stack, .key ((key, item) :: read)⟩
            (.inr rfl)
          rw [List.reverse_cons, List.append_assoc, List.singleton_append] at more
          rw [printMembers, List.append_assoc, List.cons_append, List.append_assoc,
            List.cons_append, entered, legible.1 (.inl rfl) (endsNumber_cons (by decide) _), ← more]
          · exact read?_of_token? rfl rfl
          · nofun

theorem legible_of_exact {v : Json} (exact : Exact v) : Legible v := by
  induction exact with
  | null => exact legible_of_token? (fun _ => rfl) fun _ => rfl
  | bool value =>
      cases value <;> exact legible_of_token? (fun _ => rfl) fun _ => rfl
  | int value => exact legible_of_token? (token?_decimalInt value) fun _ => rfl
  | string text => exact legible_of_token? (fun _ => token?_quoteText text _) fun _ => rfl
  | @array items each ih =>
      intro p awaits rest ends
      have opened (s : List Char) :
          p.read? ('[' :: s) = read? ⟨.items [] :: p.stack, .valueOrEnd⟩ s :=
        read?_of_token? rfl (feed?_of_awaits awaits rfl)
      rw [print, List.cons_append, List.cons_append, List.append_assoc, opened]
      cases items with
      | nil => exact read?_of_token? rfl rfl
      | cons item later =>
          exact read?_printItems ih (List.cons_ne_nil _ _) ⟨.items [] :: p.stack, .valueOrEnd⟩
            (.inr rfl) rfl rest
  | @object members each ih =>
      intro p awaits rest ends
      have opened (s : List Char) : p.read? ('\x7b' :: s) = read? ⟨p.stack, .keyOrEnd []⟩ s :=
        read?_of_token? rfl (feed?_of_awaits awaits rfl)
      rw [print, List.cons_append, List.cons_append, List.append_assoc, opened]
      cases members with
      | nil => exact read?_of_token? rfl rfl
      | cons m later => exact read?_printMembers ih (List.cons_ne_nil _ _) _ (.inl rfl) rest

end Progress

theorem parse?_eq (text : String) :
    parse? text = (Progress.start.read? text.toList).bind Progress.document? := by
  rw [parse?, Progress.read?]
  exact (Option.bind_assoc ..).symm

theorem parse?_render {v : Json} (exact : Exact v) : parse? v.render = some v := by
  have read : Progress.start.read? (v.print ++ []) = (Progress.deliver [] v).read? [] :=
    Progress.legible_of_exact exact (.inl rfl) nofun
  have ended : tokens? [] = some [] := by
    rw [tokens?]
    rfl
  rw [parse?_eq, render, String.toList_ofList, ← List.append_nil v.print, read, Progress.read?,
    ended]
  rfl

/-! ## One line -/

theorem plain_printItems {items : List Json} (each : ∀ item ∈ items, Plain item.print) :
    Plain (printItems items) := by
  induction items with
  | nil => exact List.forall_mem_nil _
  | cons item later ih =>
      rw [List.forall_mem_cons] at each
      cases later with
      | nil => exact each.1
      | cons next later =>
          rw [printItems]
          · exact plain_append each.1 (plain_cons (by decide) (ih each.2))
          · nofun

theorem plain_printMembers {members : List (Option String × Json)}
    (each : ∀ m ∈ members, Plain m.2.print) : Plain (printMembers members) := by
  induction members with
  | nil => exact List.forall_mem_nil _
  | cons m later ih =>
      obtain ⟨key, item⟩ := m
      rw [List.forall_mem_cons] at each
      have first : Plain (quoteText key ++ ':' :: item.print) :=
        plain_append (plain_quoteText key) (plain_cons (by decide) each.1)
      cases later with
      | nil => exact first
      | cons next later =>
          rw [printMembers]
          · exact plain_append first (plain_cons (by decide) (ih each.2))
          · nofun

theorem plain_print {v : Json} (exact : Exact v) : Plain v.print := by
  induction exact with
  | null => exact plain_of_all rfl
  | bool value => cases value <;> exact plain_of_all rfl
  | int value => exact plain_decimalInt value
  | string text => exact plain_quoteText text
  | array each ih =>
      exact plain_append (plain_cons (by decide) (plain_printItems ih)) (plain_of_all rfl)
  | object each ih =>
      exact plain_append (plain_cons (by decide) (plain_printMembers ih)) (plain_of_all rfl)

end DpllWatch.Json
