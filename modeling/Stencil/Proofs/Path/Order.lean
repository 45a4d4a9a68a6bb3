import Stencil.Proofs.Path

/-! The order of paths. It is total, and it tells apart paths whose components differ. -/
namespace Stencil
namespace Path

open Text

namespace Component

/-- What components of the same kind differ in. -/
def text : Component → String
  | name s => s
  | _ => ""

/-- Components are compared by kind, then by name. -/
theorem compare_eq : Component.compare = compareLex (compareOn rank) (compareOn text) := by
  funext a b
  cases a <;> cases b <;> rfl

instance : Std.TransCmp Component.compare := by
  rw [compare_eq]
  infer_instance

instance : Std.LawfulEqCmp Component.compare where
  compare_self := Std.ReflCmp.compare_self
  eq_of_compare {a b} h := by
    cases a <;> cases b <;> simp_all [Component.compare, rank]

end Component

theorem compareComponents_eq : compareComponents = List.compareLex Component.compare := by
  funext as bs
  induction as generalizing bs with
  | nil => cases bs <;> rfl
  | cons a as ih =>
    cases bs with
    | nil => rfl
    | cons b bs => rw [List.compareLex_cons_cons, ← ih, compareComponents]

theorem compare_eq (p q : Path) :
    p.compare q = List.compareLex Component.compare p.components q.components := by
  rw [compare, compareComponents_eq]

instance : Std.TransCmp Path.compare where
  eq_swap {p q} := by
    rw [compare_eq, compare_eq]
    exact Std.OrientedCmp.eq_swap
  isLE_trans {p q r} := by
    rw [compare_eq, compare_eq, compare_eq]
    exact Std.TransCmp.isLE_trans

theorem components_eq_of_compare {p q : Path} (h : p.compare q = .eq) :
    p.components = q.components :=
  Std.LawfulEqCmp.eq_of_compare ((compare_eq p q).symm.trans h)

/-! ## Components of a path put together -/

/-- What a path starts with before its names. -/
def lead (p : Path) : List Component :=
  if p.isAbsolute then [.root] else if (cut p.text.toList).head? = some "." then [.current] else []

theorem components_eq (p : Path) :
    p.components = p.lead ++ ((kept p.text.toList).filter (· ≠ ".")).map componentOf := by
  have hfilter : (kept p.text.toList).filter (· ≠ ".") =
      p.pieces.filter fun s => s ≠ "" ∧ s ≠ "." := by
    rw [kept, List.filter_filter, pieces_eq]
    congr 1
    funext s
    simp [Bool.and_comm]
  rw [hfilter, components, lead, ← pieces_eq]
  split
  · rfl
  · split <;> rfl

theorem lead_join {root : Path} {p : String} (hroot : root.text ≠ "") (hp : ¬ p.startsWith "/") :
    (root.join p).lead = root.lead := by
  have hhead : (cut (root.join p).text.toList).head? = (cut root.text.toList).head? := by
    obtain ⟨base, hbase, htext⟩ := toList_join hroot hp
    rw [htext, cut_append, List.head?_append_of_ne_nil _ (cut_ne_nil base)]
    rcases hbase with h | h
    · rw [h]
    · rw [h, cut_append, List.head?_append_of_ne_nil _ (cut_ne_nil base)]
  rw [lead, lead, isAbsolute, isAbsolute, startsWith_join hroot hp, hhead]

theorem components_join {root : Path} {names : List String} (hroot : root.text ≠ "")
    (hn : ∀ n ∈ names, IsName n) :
    (root.join (ofNames names)).components = root.components ++ names.map .name := by
  have hstart := ofNames_not_startsWith hn
  have hnames : (names.filter (· ≠ ".")).map componentOf = names.map .name := by
    rw [List.filter_eq_self.mpr fun n hmem => by simpa using (hn n hmem).ne_dot]
    exact List.map_congr_left fun n hmem => if_neg (hn n hmem).ne_dots
  rw [components_eq, components_eq, lead_join hroot hstart, kept_join hroot hstart,
    kept_ofNames hn, List.filter_append, List.map_append, hnames, List.append_assoc]

/-- Files below a root are compared by the names that lead to them. -/
theorem eq_of_compare_join {root : Path} {names others : List String} (hroot : root.text ≠ "")
    (hn : ∀ n ∈ names, IsName n) (ho : ∀ n ∈ others, IsName n)
    (h : (root.join (ofNames names)).compare (root.join (ofNames others)) = .eq) :
    names = others := by
  have hsame := components_eq_of_compare h
  rw [components_join hroot hn, components_join hroot ho] at hsame
  have hinj : Function.Injective Component.name := fun _ _ => Component.name.inj
  exact (List.map_injective_iff.mpr hinj) (List.append_cancel_left hsame)

end Path
end Stencil
