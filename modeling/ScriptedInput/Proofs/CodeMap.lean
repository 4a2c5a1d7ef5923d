import Mathlib.Data.List.Sort
import ScriptedInput.CodeMap

/-! Maps by code: what is under a code, and maps that are built in the order of their codes. -/
namespace ScriptedInput

theorem lookup_cons_eq_ite {κ α : Type} [DecidableEq κ] (k : κ) (e : κ × α) (l : List (κ × α)) :
    (e :: l).lookup k = if k = e.1 then some e.2 else l.lookup k := by
  by_cases h : k = e.1
  · rw [List.lookup_cons, beq_iff_eq.mpr h, if_pos h]
  · rw [List.lookup_cons, beq_false_of_ne h, if_neg h]

/-- Each key of an ascending list is there once. -/
private theorem mem_iff_lookup {κ α : Type} [LT κ] [DecidableEq κ] (irrefl : ∀ a : κ, ¬ a < a)
    {l : List (κ × α)} (h : l.Pairwise fun a b => a.1 < b.1) {e : κ × α} :
    e ∈ l ↔ l.lookup e.1 = some e.2 := by
  induction l with
  | nil => simp
  | cons d l ih =>
    obtain ⟨hd, hl⟩ := List.pairwise_cons.mp h
    rw [lookup_cons_eq_ite, List.mem_cons, ih hl]
    split_ifs with same
    · have later : l.lookup e.1 ≠ some e.2 := fun found => irrefl d.1 (by
        have below := hd e ((ih hl).mpr found)
        rwa [same] at below)
      rw [Option.some.injEq, or_iff_left later, Prod.ext_iff, and_iff_right same, eq_comm]
    · have other : e ≠ d := fun eq => same (congrArg Prod.fst eq)
      exact or_iff_right other

section Ascending
variable {κ α : Type} [LT κ] [DecidableLT κ] [DecidableEq κ] {key : κ} {l : List (κ × α)}

/-- A key above all others goes to the end. -/
theorem insertAscending_of_lt (asymm : ∀ a b : κ, a < b → ¬ b < a)
    (h : ∀ e ∈ l, e.1 < key) (a : α) : insertAscending key a l = l ++ [(key, a)] := by
  induction l with
  | nil => rfl
  | cons e l ih =>
    obtain ⟨he, hl⟩ := List.forall_mem_cons.mp h
    have above : ¬ key < e.1 := asymm _ _ he
    have other : ¬ key = e.1 := fun eq => above (eq ▸ he)
    rw [insertAscending, if_neg above, if_neg other, ih hl, List.cons_append]

/-- The value under the last key is replaced. -/
private theorem insertAscending_last (asymm : ∀ a b : κ, a < b → ¬ b < a)
    (h : ∀ e ∈ l, e.1 < key) (a b : α) :
    insertAscending key a (l ++ [(key, b)]) = l ++ [(key, a)] := by
  induction l with
  | nil =>
    have self : ¬ key < key := fun lt => asymm _ _ lt lt
    rw [List.nil_append, insertAscending, if_neg self, if_pos rfl, List.nil_append]
  | cons e l ih =>
    obtain ⟨he, hl⟩ := List.forall_mem_cons.mp h
    have above : ¬ key < e.1 := asymm _ _ he
    have other : ¬ key = e.1 := fun eq => above (eq ▸ he)
    rw [List.cons_append, insertAscending, if_neg above, if_neg other, ih hl, List.cons_append]

/-- What was put in last under a key is found under it. -/
theorem lookup_insertAscending (k : κ) (a : α) :
    (insertAscending key a l).lookup k = if k = key then some a else l.lookup k := by
  induction l with
  | nil => exact lookup_cons_eq_ite k (key, a) []
  | cons d l ih =>
    rw [insertAscending]
    by_cases below : key < d.1
    · rw [if_pos below, lookup_cons_eq_ite]
    · rw [if_neg below, lookup_cons_eq_ite k d]
      by_cases same : key = d.1
      · rw [if_pos same, lookup_cons_eq_ite, same]
        split_ifs <;> rfl
      · rw [if_neg same, lookup_cons_eq_ite, ih]
        split_ifs with first last
        · exact absurd (last.symm.trans first) same
        · rfl
        · rfl
        · rfl

/-- Nothing is lost under a new key. -/
private theorem perm_insertAscending (fresh : ∀ e ∈ l, e.1 ≠ key) (a : α) :
    (insertAscending key a l).Perm ((key, a) :: l) := by
  induction l with
  | nil => exact .refl _
  | cons d l ih =>
    obtain ⟨hd, hl⟩ := List.forall_mem_cons.mp fresh
    rw [insertAscending, if_neg hd.symm]
    split_ifs
    · exact .refl _
    · exact ((ih hl).cons d).trans (.swap _ _ l)

/-- Nothing is lost from a list that has each key once. -/
theorem perm_foldl_insertAscending (l₀ : List (κ × α))
    (distinct : ((l₀ ++ l).map Prod.fst).Nodup) :
    (l.foldl (fun l e => insertAscending e.1 e.2 l) l₀).Perm (l₀ ++ l) := by
  induction l generalizing l₀ with
  | nil => rw [List.foldl_nil, List.append_nil]
  | cons e l ih =>
    have fresh : ∀ d ∈ l₀, d.1 ≠ e.1 := by
      rw [List.map_append, List.nodup_append] at distinct
      exact fun d hd => distinct.2.2 d.1 (List.mem_map_of_mem hd) e.1 List.mem_cons_self
    have put := perm_insertAscending fresh e.2
    have moved : (insertAscending e.1 e.2 l₀ ++ l).Perm (l₀ ++ e :: l) :=
      (put.append_right l).trans List.perm_middle.symm
    rw [List.foldl_cons]
    exact (ih _ ((moved.map Prod.fst).nodup_iff.mpr distinct)).trans moved

end Ascending

namespace CodeMap
variable {α β : Type}

private theorem asymm (a b : UInt16) (h : a < b) : ¬ b < a := UInt16.lt_asymm h

def map (f : α → β) (m : CodeMap α) : CodeMap β :=
  ⟨m.entries.map (fun e => (e.1, f e.2)), List.pairwise_map.mpr m.ascending⟩

private theorem ext {m n : CodeMap α} (h : m.entries = n.entries) : m = n := by
  obtain ⟨_, _⟩ := m
  obtain ⟨_, _⟩ := n
  congr

theorem get?_insert (m : CodeMap α) (code k : UInt16) (a : α) :
    (m.insert code a).get? k = if k = code then some a else m.get? k :=
  lookup_insertAscending k a

/-- Entries under other codes leave the value under a code. -/
theorem get?_foldl_insert {code : UInt16} {l : List (UInt16 × α)} (other : ∀ e ∈ l, e.1 ≠ code)
    (m : CodeMap α) : (l.foldl (fun m e => m.insert e.1 e.2) m).get? code = m.get? code := by
  induction l generalizing m with
  | nil => rfl
  | cons e l ih =>
    obtain ⟨first, rest⟩ := List.forall_mem_cons.mp other
    rw [List.foldl_cons, ih rest, get?_insert, if_neg first.symm]

/-- A code that is there stays there. -/
theorem isSome_get?_foldl_insert {code : UInt16} {m : CodeMap α} (there : (m.get? code).isSome)
    (l : List (UInt16 × α)) : ((l.foldl (fun m e => m.insert e.1 e.2) m).get? code).isSome := by
  induction l generalizing m with
  | nil => exact there
  | cons e l ih =>
    refine ih ?_
    rw [get?_insert]
    split_ifs
    · rfl
    · exact there

/-- Maps with the same value under each code are the same. -/
theorem ext_get? {m n : CodeMap α} (h : ∀ code, m.get? code = n.get? code) : m = n := by
  have members (e : UInt16 × α) : e ∈ m.entries ↔ e ∈ n.entries := by
    rw [mem_iff_lookup UInt16.lt_irrefl m.ascending, mem_iff_lookup UInt16.lt_irrefl n.ascending]
    exact Eq.congr_left (h e.1)
  have irrefl : Std.Irrefl fun a b : UInt16 × α => a.1 < b.1 := ⟨fun e => UInt16.lt_irrefl e.1⟩
  have antisymm : Std.Antisymm fun a b : UInt16 × α => a.1 < b.1 :=
    ⟨fun _ _ below above => absurd above (asymm _ _ below)⟩
  exact ext (List.Pairwise.eq_of_mem_iff m.ascending n.ascending members)

private theorem entries_insert (m : CodeMap α) (code : UInt16) (a : α) :
    (m.insert code a).entries = insertAscending code a m.entries := rfl

private theorem entries_insert_of_lt {m : CodeMap α} {code : UInt16} (h : ∀ e ∈ m.entries, e.1 < code)
    (a : α) : (m.insert code a).entries = m.entries ++ [(code, a)] :=
  insertAscending_of_lt asymm h a

private theorem entries_foldl_insert {l : List (UInt16 × α)} {m : CodeMap α}
    (h : (m.entries ++ l).Pairwise (fun a b => a.1 < b.1)) :
    (l.foldl (fun m e => m.insert e.1 e.2) m).entries = m.entries ++ l := by
  induction l generalizing m with
  | nil => simp
  | cons e l ih =>
    have before : ∀ d ∈ m.entries, d.1 < e.1 := fun d hd =>
      (List.pairwise_append.mp h).2.2 d hd e List.mem_cons_self
    have inserted := entries_insert_of_lt before e.2
    rw [List.foldl_cons, ih, inserted, List.append_assoc, List.singleton_append]
    rwa [inserted, List.append_assoc, List.singleton_append]

/-- A map is built from its own entries. -/
theorem ofList_entries (m : CodeMap α) : ofList m.entries = m :=
  ext (entries_foldl_insert (m := {}) (by simpa using m.ascending))

private theorem entries_foldl (l : List (UInt16 × α)) (m : CodeMap α) :
    (l.foldl (fun m e => m.insert e.1 e.2) m).entries =
      l.foldl (fun l e => insertAscending e.1 e.2 l) m.entries := by
  induction l generalizing m with
  | nil => rfl
  | cons e l ih => rw [List.foldl_cons, ih, entries_insert, List.foldl_cons]

/-- The order in which the entries of a map are put into it is nothing to it. -/
theorem ofList_of_perm {m : CodeMap α} {l : List (UInt16 × α)} (h : l.Perm m.entries) :
    ofList l = m := by
  have distinct : (m.entries.map Prod.fst).Nodup := by
    rw [List.Nodup, List.pairwise_map]
    exact m.ascending.imp fun lt => UInt16.ne_of_lt lt
  have all : (ofList l).entries.Perm l := by
    rw [ofList, entries_foldl]
    exact perm_foldl_insertAscending [] ((h.map Prod.fst).nodup_iff.mpr distinct)
  exact ext ((all.trans h).eq_of_pairwise (fun a b _ _ ab ba => absurd ba (asymm _ _ ab))
    (ofList l).ascending m.ascending)

def extend (m : CodeMap (List α)) (code : UInt16) (items : List α) : CodeMap (List α) :=
  m.insert code ((m.get? code).getD [] ++ items)

/-- Items may be added piece by piece. -/
theorem extend_extend (m : CodeMap (List α)) (code : UInt16) (items more : List α) :
    (m.extend code items).extend code more = m.extend code (items ++ more) := by
  refine ext_get? fun k => ?_
  simp only [extend, get?_insert, if_true, Option.getD_some, List.append_assoc]
  split_ifs <;> rfl

private theorem lookup_eq_none_of_lt {l : List (UInt16 × α)} {code : UInt16} (h : ∀ e ∈ l, e.1 < code) :
    l.lookup code = none := by
  refine List.lookup_eq_none_iff.mpr fun e he => ?_
  have : code ≠ e.1 := fun eq => asymm _ _ (eq ▸ h e he) (eq ▸ h e he)
  simpa using this

private theorem entries_extend_last {m : CodeMap (List α)} {l : List (UInt16 × List α)} {code : UInt16}
    {items : List α} (h : ∀ e ∈ l, e.1 < code) (hm : m.entries = l ++ [(code, items)])
    (chunks : List (List α)) :
    (chunks.foldl (·.extend code) m).entries = l ++ [(code, items ++ chunks.flatten)] := by
  induction chunks generalizing m items with
  | nil => simpa using hm
  | cons chunk chunks ih =>
    have found : m.get? code = some items := by
      rw [get?, hm, List.lookup_append, lookup_eq_none_of_lt h]
      simp
    have extended : (m.extend code chunk).entries = l ++ [(code, items ++ chunk)] := by
      rw [extend, found, entries_insert, hm]
      exact insertAscending_last asymm h _ _
    rw [List.foldl_cons, ih extended, List.flatten_cons, List.append_assoc]

/-- Pieces of a list, added one by one under a new last code, make up the list. -/
private theorem entries_extend {m : CodeMap (List α)} {code : UInt16} (h : ∀ e ∈ m.entries, e.1 < code)
    {chunks : List (List α)} (hc : chunks ≠ []) :
    (chunks.foldl (·.extend code) m).entries = m.entries ++ [(code, chunks.flatten)] := by
  obtain ⟨chunk, chunks, rfl⟩ := List.exists_cons_of_ne_nil hc
  have extended : (m.extend code chunk).entries = m.entries ++ [(code, chunk)] := by
    rw [extend, get?, lookup_eq_none_of_lt h]
    exact entries_insert_of_lt h _
  rw [List.foldl_cons, entries_extend_last h extended, List.flatten_cons]

/-- Lists in pieces, under ascending codes: those with a piece at all are there as a whole. -/
theorem entries_foldl_extend {l : List (UInt16 × List (List α))} {m : CodeMap (List α)}
    (h : (m.entries.map Prod.fst ++ l.map Prod.fst).Pairwise (· < ·)) :
    (l.foldl (fun m e => e.2.foldl (·.extend e.1) m) m).entries =
      m.entries ++ l.filterMap (fun e => if e.2.isEmpty then none else some (e.1, e.2.flatten)) := by
  induction l generalizing m with
  | nil => simp
  | cons e l ih =>
    have before : ∀ d ∈ m.entries, d.1 < e.1 := fun d hd =>
      (List.pairwise_append.mp h).2.2 d.1 (List.mem_map_of_mem hd) e.1 List.mem_cons_self
    rw [List.foldl_cons]
    by_cases he : e.2 = []
    · have fewer : (m.entries.map Prod.fst ++ l.map Prod.fst).Pairwise (· < ·) :=
        h.sublist ((List.Sublist.refl _).append (List.sublist_cons_self _ _))
      rw [he, List.foldl_nil, ih fewer, List.filterMap_cons_none (by simp [he])]
    · have extended := entries_extend before he
      rw [ih (by simpa [extended] using h), extended, List.filterMap_cons_some (by simp [he]; rfl),
        List.append_assoc, List.singleton_append]

end CodeMap
end ScriptedInput
