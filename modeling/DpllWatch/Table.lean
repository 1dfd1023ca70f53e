/-! Tables from names to values. -/

namespace DpllWatch

/-- Each name occurs once. -/
abbrev Table (α : Type) := List (String × α)

namespace Table

variable {α : Type}

def get? : Table α → String → Option α
  | [], _ => none
  | (key, value) :: rest, name => if key = name then some value else get? rest name

/-- The value under a name is replaced where it stands; a new name goes to the end. -/
def put : Table α → String → α → Table α
  | [], name, value => [(name, value)]
  | (key, old) :: rest, name, value =>
    if key = name then (name, value) :: rest else (key, old) :: put rest name value

def ofList (entries : List (String × α)) : Table α :=
  entries.foldl (fun t entry => t.put entry.1 entry.2) []

theorem get?_put (t : Table α) (name key : String) (value : α) :
    (put t name value).get? key = if key = name then some value else t.get? key := by
  induction t with
  | nil => grind [put, get?]
  | cons entry rest ih => grind [put, get?]

theorem put_of_not_mem {t : Table α} {name : String} (new : name ∉ t.map Prod.fst) (value : α) :
    put t name value = t ++ [(name, value)] := by
  induction t with
  | nil => rfl
  | cons entry rest ih =>
      simp only [List.map_cons, List.mem_cons, not_or] at new
      rw [put, if_neg (Ne.symm new.1), ih new.2, List.cons_append]

theorem foldl_put {t entries : Table α} (distinct : ((t ++ entries).map Prod.fst).Nodup) :
    entries.foldl (fun t entry => t.put entry.1 entry.2) t = t ++ entries := by
  induction entries generalizing t with
  | nil => rw [List.foldl_nil, List.append_nil]
  | cons entry rest ih =>
      have new : entry.1 ∉ t.map Prod.fst := by
        intro member
        rw [List.map_append, List.nodup_append] at distinct
        exact distinct.2.2 _ member _ (List.mem_map_of_mem List.mem_cons_self) rfl
      have split : t ++ entry :: rest = t ++ [entry] ++ rest := (List.append_cons t entry rest)
      rw [split] at distinct ⊢
      rw [List.foldl_cons, put_of_not_mem new]
      exact ih distinct

theorem ofList_of_nodup {entries : Table α} (distinct : (entries.map Prod.fst).Nodup) :
    ofList entries = entries :=
  foldl_put distinct

end Table

end DpllWatch
