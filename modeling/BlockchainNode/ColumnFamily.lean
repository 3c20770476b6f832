import Mathlib.Data.List.Lex
import Mathlib.Order.Basic

namespace BlockchainNode

structure ColumnFamily (V : Type) where
  entries : List (List Nat × V)
  sorted : entries.Pairwise fun a b => a.1 < b.1

inductive IteratorMode where
  | start
  | «end»
  deriving DecidableEq, Repr

namespace ColumnFamily

variable {V : Type}

def empty : ColumnFamily V := ⟨[], .nil⟩

def insertEntry (key : List Nat) (value : V) : List (List Nat × V) → List (List Nat × V)
  | [] => [(key, value)]
  | (k, v) :: rest =>
      if key < k then (key, value) :: (k, v) :: rest
      else if key = k then (key, value) :: rest
      else (k, v) :: insertEntry key value rest

section Entries

variable {key : List Nat} {value : V} {e : List Nat × V}

theorem mem_insertEntry :
    ∀ {l : List (List Nat × V)}, l.Pairwise (fun a b => a.1 < b.1) →
      (e ∈ insertEntry key value l ↔ e = (key, value) ∨ (e ∈ l ∧ e.1 ≠ key))
  | [], _ => by simp [insertEntry]
  | (k, v) :: rest, hs => by
      have hrest : ∀ e ∈ rest, k < e.1 := fun e he => List.rel_of_pairwise_cons hs he
      unfold insertEntry
      split_ifs with hlt heq
      · have hne : ∀ e ∈ (k, v) :: rest, e.1 ≠ key := fun e he =>
          (List.mem_cons.mp he).elim (fun h => h ▸ ne_of_gt hlt) fun h => ne_of_gt (hlt.trans (hrest e h))
        rw [List.mem_cons]
        exact ⟨fun h => h.imp_right fun h => ⟨h, hne e h⟩, fun h => h.imp_right And.left⟩
      · subst heq
        have hne : ∀ e ∈ rest, e.1 ≠ key := fun e he => ne_of_gt (hrest e he)
        simp only [List.mem_cons]
        constructor
        · exact fun h => h.imp_right fun h => ⟨.inr h, hne e h⟩
        · rintro (h | ⟨rfl | h, hk⟩)
          exacts [.inl h, absurd rfl hk, .inr h]
      · simp only [List.mem_cons, mem_insertEntry hs.of_cons]
        have hk : k ≠ key := Ne.symm heq
        constructor
        · rintro (rfl | h | ⟨h, hne⟩)
          exacts [.inr ⟨.inl rfl, hk⟩, .inl h, .inr ⟨.inr h, hne⟩]
        · rintro (h | ⟨rfl | h, hne⟩)
          exacts [.inr (.inl h), .inl rfl, .inr (.inr ⟨h, hne⟩)]

theorem insertEntry_sorted :
    ∀ {l : List (List Nat × V)}, l.Pairwise (fun a b => a.1 < b.1) →
      (insertEntry key value l).Pairwise (fun a b => a.1 < b.1)
  | [], _ => List.pairwise_singleton _ _
  | (k, v) :: rest, hs => by
      have hrest : ∀ e ∈ rest, k < e.1 := fun e he => List.rel_of_pairwise_cons hs he
      unfold insertEntry
      split_ifs with hlt heq
      · exact hs.cons fun e he => (List.mem_cons.mp he).elim (fun h => h ▸ hlt) (fun h => hlt.trans (hrest e h))
      · subst heq
        exact hs.of_cons.cons hrest
      · refine (insertEntry_sorted hs.of_cons).cons fun e he => ?_
        rcases (mem_insertEntry hs.of_cons).mp he with rfl | ⟨h, -⟩
        · exact lt_of_le_of_ne (not_lt.mp hlt) (Ne.symm heq)
        · exact hrest e h

theorem lookup_eq_some_of_sorted :
    ∀ {l : List (List Nat × V)}, l.Pairwise (fun a b => a.1 < b.1) → (l.lookup key = some value ↔ (key, value) ∈ l)
  | [], _ => by simp
  | (k, v) :: rest, hs => by
      have hrest : ∀ e ∈ rest, k < e.1 := fun e he => List.rel_of_pairwise_cons hs he
      by_cases h : key = k
      · subst h
        simp only [List.lookup_cons_self, Option.some.injEq, List.mem_cons, Prod.mk.injEq, true_and]
        exact ⟨fun h => .inl h.symm, fun h => h.elim Eq.symm fun h => absurd (hrest _ h) (lt_irrefl _)⟩
      · rw [List.lookup_cons, show (key == k) = false from beq_false_of_ne h, lookup_eq_some_of_sorted hs.of_cons,
          List.mem_cons]
        exact ⟨.inr, fun h' => h'.resolve_left fun e => h (congrArg Prod.fst e)⟩

theorem find?_reverse_greatest {l : List (List Nat × V)} (hs : l.Pairwise (fun a b => a.1 < b.1))
    {p : List Nat × V → Bool} (h : l.reverse.find? p = some e) :
    e ∈ l ∧ p e ∧ ∀ e' ∈ l, p e' → e'.1 ≤ e.1 := by
  obtain ⟨hp, as, bs, hl, has⟩ := List.find?_eq_some.mp h
  have hrev : (as ++ e :: bs).Pairwise (fun a b => b.1 < a.1) := hl ▸ List.pairwise_reverse.mpr hs
  refine ⟨List.mem_reverse.mp (hl ▸ List.mem_append_right _ (List.mem_cons_self e bs)), hp, fun e' he' hpe' => ?_⟩
  rcases List.mem_append.mp (hl ▸ List.mem_reverse.mpr he') with h' | h'
  · exact absurd hpe' (by simpa using has e' h')
  · rcases List.mem_cons.mp h' with rfl | h'
    · exact le_rfl
    · exact le_of_lt (List.rel_of_pairwise_cons (List.pairwise_append.mp hrev).2.1 h')

theorem nodup_filterMap_of_sorted {β : Type} :
    ∀ {l : List (List Nat × V)}, l.Pairwise (fun a b => a.1 < b.1) → ∀ {f : List Nat × V → Option β},
      (∀ e ∈ l, ∀ e' ∈ l, ∀ b, f e = some b → f e' = some b → e.1 = e'.1) → (l.filterMap f).Nodup
  | [], _, _, _ => List.nodup_nil
  | e :: rest, hs, f, hf => by
      have hrest := nodup_filterMap_of_sorted hs.of_cons fun a ha a' ha' =>
        hf a (List.mem_cons_of_mem e ha) a' (List.mem_cons_of_mem e ha')
      rw [List.filterMap_cons]
      cases he : f e with
      | none => exact hrest
      | some b =>
          refine List.nodup_cons.mpr ⟨fun hb => ?_, hrest⟩
          obtain ⟨e', he', hfe'⟩ := List.mem_filterMap.mp hb
          have hkey := hf e (List.mem_cons_self e rest) e' (List.mem_cons_of_mem e he') b he hfe'
          exact absurd (hkey ▸ List.rel_of_pairwise_cons hs he') (lt_irrefl _)

end Entries

def putCf (cf : ColumnFamily V) (key : List Nat) (value : V) : ColumnFamily V :=
  ⟨insertEntry key value cf.entries, insertEntry_sorted cf.sorted⟩

def getCf (cf : ColumnFamily V) (key : List Nat) : Option V := cf.entries.lookup key

def deleteCf (cf : ColumnFamily V) (key : List Nat) : ColumnFamily V :=
  ⟨cf.entries.filter (·.1 != key), cf.sorted.sublist (List.filter_sublist _)⟩

def iteratorCf (cf : ColumnFamily V) : IteratorMode → List (List Nat × V)
  | .start => cf.entries
  | .end => cf.entries.reverse

variable {cf : ColumnFamily V} {key key' : List Nat} {value : V} {e : List Nat × V}

theorem mem_putCf : e ∈ (cf.putCf key value).entries ↔ e = (key, value) ∨ (e ∈ cf.entries ∧ e.1 ≠ key) :=
  mem_insertEntry cf.sorted

theorem mem_deleteCf : e ∈ (cf.deleteCf key).entries ↔ e ∈ cf.entries ∧ e.1 ≠ key := by
  simp [deleteCf]

theorem getCf_eq_some : cf.getCf key = some value ↔ (key, value) ∈ cf.entries :=
  lookup_eq_some_of_sorted cf.sorted

theorem getCf_putCf : (cf.putCf key value).getCf key' = if key' = key then some value else cf.getCf key' := by
  refine Option.ext fun v => ?_
  simp only [Option.mem_def, getCf_eq_some, mem_putCf, Prod.mk.injEq]
  split_ifs with hk
  · simp [hk, eq_comm]
  · simp [hk, getCf_eq_some]

theorem getCf_deleteCf : (cf.deleteCf key).getCf key' = if key' = key then none else cf.getCf key' := by
  refine Option.ext fun v => ?_
  simp only [Option.mem_def, getCf_eq_some, mem_deleteCf]
  split_ifs with hk
  · simp [hk]
  · simp [hk, getCf_eq_some]

end ColumnFamily

end BlockchainNode
