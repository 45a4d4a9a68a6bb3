import Stencil.Run
import Stencil.Proofs.KeyMap
import Stencil.Proofs.Locator

/-! What a run has to write: the located templates with their renders. A run that remembers its
renders finds the same as one that renders every template for itself. -/
namespace Stencil
namespace Run

/-- A located template with the text it is rendered to. -/
structure Product where
  located : Located
  text : String
  deriving DecidableEq

namespace Product

def key (q : Product) : String := q.located.lockKey

def output (q : Product) : Path := q.located.output

def fingerprint (q : Product) : UInt32 := Lockfile.fingerprint q.text

def rendered (q : Product) : Rendered := ⟨q.text, q.fingerprint⟩

/-- The output is there, and its render has the fingerprint on record. -/
def isIdentical (t : FileTree) (recorded : KeyMap UInt32) (q : Product) : Bool :=
  t.exists? q.output && recorded.get? q.key == some q.fingerprint

end Product

def renderAlone (s : Setting) (located : Located) : Except Failure Product :=
  match s.engine located.text s.context with
  | .error source => .error (.render located.rootTemplate.text source)
  | .ok text => .ok ⟨located, text⟩

/-- A render with the same key is taken over. -/
def reuse (s : Setting) (seen : List Product) (located : Located) : Except Failure Product :=
  match seen.find? fun q => q.key == located.lockKey with
  | some q => .ok ⟨located, q.text⟩
  | none => renderAlone s located

/-- The template in a file, if there is one, rendered. -/
def product? (s : Setting) (render : Located → Except Failure Product) (relative : String) :
    Except Failure (Option Product) :=
  if isLockfile relative then .ok none
  else
    match s.locator.locate s.tree relative with
    | .error f => .error f
    | .ok none => .ok none
    | .ok (some located) => (render located).map some

/-- Every file in turn, each template rendered for itself. -/
def naive (s : Setting) : List String → Except Failure (List Product)
  | [] => .ok []
  | relative :: rest =>
    match product? s (renderAlone s) relative with
    | .error f => .error f
    | .ok q => (naive s rest).map (q.toList ++ ·)

/-- Every file in turn, renders taken over from those seen. -/
def recalled (s : Setting) (seen : List Product) : List String → Except Failure (List Product)
  | [] => .ok []
  | relative :: rest =>
    match product? s (reuse s seen) relative with
    | .error f => .error f
    | .ok q => (recalled s (seen ++ q.toList) rest).map (q.toList ++ ·)

theorem recalled_cons_eq_ok_iff {s : Setting} {seen : List Product} {relative : String}
    {rest : List String} {qs : List Product} :
    recalled s seen (relative :: rest) = .ok qs ↔
      ∃ q more, product? s (reuse s seen) relative = .ok q ∧
        recalled s (seen ++ q.toList) rest = .ok more ∧ qs = q.toList ++ more := by
  conv_lhs => unfold recalled
  cases product? s (reuse s seen) relative with
  | error f => simp
  | ok q =>
    dsimp only
    cases hmore : recalled s (seen ++ q.toList) rest with
    | error f => simp [Except.map, hmore]
    | ok more => simp [Except.map, hmore, eq_comm]

theorem naive_cons_eq_ok_iff {s : Setting} {relative : String} {rest : List String}
    {qs : List Product} :
    naive s (relative :: rest) = .ok qs ↔ ∃ q more, product? s (renderAlone s) relative = .ok q ∧
      naive s rest = .ok more ∧ qs = q.toList ++ more := by
  conv_lhs => unfold naive
  cases product? s (renderAlone s) relative with
  | error f => simp
  | ok q =>
    cases naive s rest with
    | error f => simp [Except.map]
    | ok more => simp [Except.map, eq_comm]

/-- What one template adds. -/
def advance (t : FileTree) (p : Progress) (q : Product) : Progress :=
  let p := { p with
    renders := p.renders.insert q.key q.rendered
    rootTemplates := insertPath q.located.rootTemplate p.rootTemplates }
  if q.isIdentical t p.cache.current.files then { p with identical := q.output :: p.identical }
  else
    { p with
      cache := p.cache.stage q.key q.fingerprint
      pending := (q.output, q.text) :: p.pending }

theorem renders_advance (t : FileTree) (p : Progress) (q : Product) :
    (advance t p q).renders = p.renders.insert q.key q.rendered := by
  unfold advance
  dsimp only
  split <;> rfl

/-- The memo holds the renders seen, the first of each key. -/
def Remembers (p : Progress) (seen : List Product) : Prop :=
  ∀ key, p.renders.get? key = (seen.find? fun q => q.key == key).map Product.rendered

theorem remembers_start (c : Lockfile.Cache) : Remembers { cache := c } [] := fun _ => rfl

theorem exists_located_of_product? {s : Setting} {render : Located → Except Failure Product}
    {relative : String} {q : Product} (h : product? s render relative = .ok (some q)) :
    isLockfile relative = false ∧ ∃ located,
      s.locator.locate s.tree relative = .ok (some located) ∧ render located = .ok q := by
  unfold product? at h
  split at h
  · simp at h
  · next hlock =>
    refine ⟨Bool.eq_false_iff.mpr hlock, ?_⟩
    split at h
    · simp at h
    · simp at h
    · next located hlocate =>
      cases hr : render located with
      | error f => simp [hr, Except.map] at h
      | ok q' => exact ⟨located, hlocate, by simpa [hr, Except.map] using h⟩

theorem renderAlone_eq_ok_iff {s : Setting} {located : Located} {q : Product} :
    renderAlone s located = .ok q ↔
      q.located = located ∧ s.engine located.text s.context = .ok q.text := by
  unfold renderAlone
  cases h : s.engine located.text s.context with
  | error source => simp
  | ok text =>
    obtain ⟨l, text'⟩ := q
    simp only [Except.ok.injEq, Product.mk.injEq]
    exact ⟨fun ⟨hl, ht⟩ => ⟨hl.symm, ht⟩, fun ⟨hl, ht⟩ => ⟨hl.symm, ht⟩⟩

theorem located_of_reuse {s : Setting} {seen : List Product} {located : Located} {q : Product}
    (h : reuse s seen located = .ok q) : q.located = located := by
  unfold reuse at h
  split at h
  · rw [← Except.ok.inj h]
  · exact (renderAlone_eq_ok_iff.mp h).1

/-- A run renders as it recalls. -/
theorem record_eq {s : Setting} {p : Progress} {seen : List Product} (h : Remembers p seen)
    (located : Located) :
    record s p located = (reuse s seen located).map (advance s.tree p) := by
  have hmemo := h located.lockKey
  unfold record render reuse
  cases hseen : seen.find? fun q => q.key == located.lockKey with
  | some q =>
    rw [hseen] at hmemo
    have hsame : p.renders.insert located.lockKey q.rendered = p.renders :=
      KeyMap.insert_of_get? hmemo
    simp only [hmemo, Option.map_some, Except.map, advance, Product.key, Product.rendered,
      Product.fingerprint] at hsame ⊢
    rw [hsame]
    exact (apply_ite Except.ok _ _ _).symm
  | none =>
    rw [hseen] at hmemo
    simp only [hmemo, Option.map_none, renderAlone]
    cases s.engine located.text s.context with
    | error source => rfl
    | ok text =>
      exact (apply_ite Except.ok _ _ _).symm

theorem step_eq {s : Setting} {p : Progress} {seen : List Product} (h : Remembers p seen)
    (relative : String) :
    (step s p relative).2 =
      (product? s (reuse s seen) relative).map fun q => q.toList.foldl (advance s.tree) p := by
  unfold step product?
  by_cases hlock : isLockfile relative = true
  · simp [hlock, Except.map]
  · simp only [hlock]
    cases s.locator.locate s.tree relative with
    | error f => rfl
    | ok found =>
      cases found with
      | none => rfl
      | some located =>
        simp only [record_eq h]
        cases reuse s seen located <;> rfl

theorem Remembers.advance {s : Setting} {p : Progress} {seen : List Product} {located : Located}
    {q : Product} (h : Remembers p seen) (hq : reuse s seen located = .ok q) :
    Remembers (advance s.tree p q) (seen ++ [q]) := by
  intro key
  rw [renders_advance, KeyMap.get?_insert, List.find?_append, h key]
  by_cases hkey : key = q.key
  · subst hkey
    have hlocated := located_of_reuse hq
    unfold reuse at hq
    cases hseen : seen.find? fun x => x.key == q.key with
    | none => simp
    | some x =>
      have hx : (seen.find? fun x => x.key == located.lockKey) = some x := by
        rw [← hlocated]
        exact hseen
      rw [hx] at hq
      have htext : q.text = x.text := by rw [← Except.ok.inj hq]
      simp [Product.rendered, Product.fingerprint, htext]
  · simp [hkey, Ne.symm hkey]

/-- After a file the memo holds what has come out of it as well. -/
theorem Remembers.next {s : Setting} {p : Progress} {seen : List Product} {relative : String}
    {q : Option Product} (h : Remembers p seen)
    (hq : product? s (reuse s seen) relative = .ok q) :
    Remembers (q.toList.foldl (Run.advance s.tree) p) (seen ++ q.toList) := by
  cases q with
  | none => simpa using h
  | some q =>
    obtain ⟨-, located, -, hr⟩ := exists_located_of_product? hq
    exact h.advance hr

/-- The whole walk gathers what the products add, one after the other. -/
theorem collect_eq (s : Setting) (files : List String) (index : Nat) {p : Progress}
    {seen : List Product} (h : Remembers p seen) :
    (collect s index p files).2 =
      (recalled s seen files).map fun qs => qs.foldl (advance s.tree) p := by
  induction files generalizing index p seen with
  | nil => rfl
  | cons relative rest ih =>
    have hstep := step_eq (s := s) h relative
    unfold collect recalled
    cases hp : product? s (reuse s seen) relative with
    | error f =>
      rw [hp] at hstep
      generalize step s p relative = result at hstep ⊢
      obtain ⟨lines, answer⟩ := result
      obtain rfl : answer = .error f := hstep
      rfl
    | ok q =>
      rw [hp] at hstep
      generalize step s p relative = result at hstep ⊢
      obtain ⟨lines, answer⟩ := result
      obtain rfl : answer = .ok (q.toList.foldl (advance s.tree) p) := hstep
      have hrest := ih (index + 1) (h.next hp)
      dsimp only
      rw [hrest]
      cases recalled s (seen ++ q.toList) rest with
      | error f => rfl
      | ok qs => simp [Except.map, List.foldl_append]

/-- Products with the same key have the same text. -/
def OneTextEach (qs : List Product) : Prop := ∀ a ∈ qs, ∀ b ∈ qs, a.key = b.key → a.text = b.text

theorem OneTextEach.append_reuse {s : Setting} {seen : List Product} {located : Located}
    {q : Product} (h : OneTextEach seen) (hq : reuse s seen located = .ok q) :
    OneTextEach (seen ++ [q]) := by
  have hnew : ∀ a ∈ seen, a.key = q.key → a.text = q.text := by
    intro a ha hkey
    have hlocated := located_of_reuse hq
    unfold reuse at hq
    split at hq
    · next x hx =>
      have hxkey : x.key = located.lockKey := by simpa using List.find?_some hx
      have hsame := h a ha x (List.mem_of_find?_eq_some hx)
        (hkey.trans (by rw [hxkey, ← hlocated]; rfl))
      rw [hsame, ← Except.ok.inj hq]
    · next hnone =>
      have hnot := List.find?_eq_none.mp hnone a ha
      rw [← hlocated] at hnot
      exact absurd (beq_iff_eq.mpr hkey) hnot
  intro a ha b hb hkey
  rcases List.mem_append.mp ha with ha' | ha' <;> rcases List.mem_append.mp hb with hb' | hb'
  · exact h a ha' b hb' hkey
  · rw [List.mem_singleton.mp hb'] at hkey ⊢
    exact hnew a ha' hkey
  · rw [List.mem_singleton.mp ha'] at hkey ⊢
    exact (hnew b hb' hkey.symm).symm
  · rw [List.mem_singleton.mp ha', List.mem_singleton.mp hb']

/-- A run renders one text for each key. -/
theorem oneTextEach_recalled {s : Setting} {seen : List Product} {files : List String}
    {qs : List Product} (hseen : OneTextEach seen) (h : recalled s seen files = .ok qs) :
    OneTextEach (seen ++ qs) := by
  induction files generalizing seen qs with
  | nil =>
    obtain rfl := Except.ok.inj h
    simpa using hseen
  | cons relative rest ih =>
    obtain ⟨found, more, hfound, hrest, rfl⟩ := recalled_cons_eq_ok_iff.mp h
    have hnext : OneTextEach (seen ++ found.toList) := by
      cases found with
      | none => simpa using hseen
      | some q =>
        obtain ⟨-, located, -, hq⟩ := exists_located_of_product? hfound
        exact hseen.append_reuse hq
    simpa using ih hnext hrest

/-! ## What the walk leaves -/

/-- The products whose outputs are left as they are. -/
def identicalOnes (t : FileTree) (recorded : KeyMap UInt32) (qs : List Product) : List Product :=
  qs.filter (Product.isIdentical t recorded)

/-- The products that are written. -/
def writtenOnes (t : FileTree) (recorded : KeyMap UInt32) (qs : List Product) : List Product :=
  qs.filter fun q => !q.isIdentical t recorded

theorem identical_foldl (t : FileTree) (qs : List Product) (p : Progress) :
    (qs.foldl (advance t) p).identical.reverse =
      p.identical.reverse ++ (identicalOnes t p.cache.current.files qs).map Product.output := by
  induction qs generalizing p with
  | nil => simp [identicalOnes]
  | cons q qs ih =>
    rw [List.foldl_cons, ih]
    by_cases h : q.isIdentical t p.cache.current.files = true
    · simp [advance, h, identicalOnes]
    · simp [advance, h, identicalOnes, Lockfile.Cache.stage]

theorem pending_foldl (t : FileTree) (qs : List Product) (p : Progress) :
    (qs.foldl (advance t) p).pending.reverse =
      p.pending.reverse ++
        (writtenOnes t p.cache.current.files qs).map fun q => (q.output, q.text) := by
  induction qs generalizing p with
  | nil => simp [writtenOnes]
  | cons q qs ih =>
    rw [List.foldl_cons, ih]
    by_cases h : q.isIdentical t p.cache.current.files = true
    · simp [advance, h, writtenOnes]
    · simp [advance, h, writtenOnes, Lockfile.Cache.stage]

/-- What is written is staged; what was loaded stays until the end. -/
theorem cache_foldl (t : FileTree) (qs : List Product) (p : Progress) :
    (qs.foldl (advance t) p).cache =
      { p.cache with
        staged := p.cache.staged.insertAll
          ((writtenOnes t p.cache.current.files qs).map fun q => (q.key, q.fingerprint)) } := by
  induction qs generalizing p with
  | nil => rfl
  | cons q qs ih =>
    rw [List.foldl_cons, ih]
    by_cases h : q.isIdentical t p.cache.current.files = true
    · simp [advance, h, writtenOnes]
    · simp [advance, h, writtenOnes, Lockfile.Cache.stage, KeyMap.insertAll_cons]

theorem rootTemplates_foldl (t : FileTree) (qs : List Product) (p : Progress) :
    (qs.foldl (advance t) p).rootTemplates =
      qs.foldl (fun ps q => insertPath q.located.rootTemplate ps) p.rootTemplates := by
  induction qs generalizing p with
  | nil => rfl
  | cons q qs ih =>
    rw [List.foldl_cons, List.foldl_cons, ih]
    unfold advance
    dsimp only
    split <;> rfl

/-- After the walk the memo has the render of everything located. -/
theorem renders_foldl {t : FileTree} {qs : List Product} (h : OneTextEach qs) (p : Progress)
    {q : Product} (hq : q ∈ qs) :
    (qs.foldl (advance t) p).renders.get? q.key = some q.rendered := by
  induction qs using List.reverseRecOn with
  | nil => simp at hq
  | append_singleton init x ih =>
    rw [List.foldl_append, List.foldl_cons, List.foldl_nil, renders_advance, KeyMap.get?_insert]
    by_cases hkey : q.key = x.key
    · have htext := h q hq x (by simp) hkey
      simp [hkey, Product.rendered, Product.fingerprint, htext]
    · have hinit : q ∈ init := by
        rcases List.mem_append.mp hq with hq | hq
        · exact hq
        · exact absurd (congrArg Product.key (List.mem_singleton.mp hq)) hkey
      rw [if_neg hkey]
      exact ih (fun a ha b hb => h a (by simp [ha]) b (by simp [hb])) hinit

/-! ## Rendering every template for itself -/

/-- The text of a template is that of the file its key leads to. -/
def ReadByKey (s : Setting) (located : Located) : Prop :=
  s.tree.readText (s.root.join located.lockKey) = .ok located.text

theorem text_eq_of_key {s : Setting} {a b : Located} (ha : ReadByKey s a) (hb : ReadByKey s b)
    (h : a.lockKey = b.lockKey) : a.text = b.text := by
  unfold ReadByKey at ha hb
  rw [h] at ha
  exact Except.ok.inj (ha.symm.trans hb)

theorem reuse_eq_renderAlone {s : Setting} {seen : List Product} {located : Located}
    (hseen : ∀ q ∈ seen, renderAlone s q.located = .ok q)
    (htext : ∀ q ∈ seen, q.key = located.lockKey → q.located.text = located.text) :
    reuse s seen located = renderAlone s located := by
  unfold reuse
  split
  · next q hq =>
    have hmem := List.mem_of_find?_eq_some hq
    have hkey : q.key = located.lockKey := by simpa using List.find?_some hq
    symm
    rw [renderAlone_eq_ok_iff, ← htext q hmem hkey]
    exact ⟨rfl, (renderAlone_eq_ok_iff.mp (hseen q hmem)).2⟩
  · rfl

/-- Where keys tell texts apart, among all that is located, remembering renders makes no
difference. -/
theorem recalled_eq_naive_of_text {s : Setting} {P : Located → Prop} {files : List String}
    {seen : List Product} (htext : ∀ a b, P a → P b → a.lockKey = b.lockKey → a.text = b.text)
    (hfiles : ∀ relative ∈ files, isLockfile relative = false → ∀ located,
      s.locator.locate s.tree relative = .ok (some located) → P located)
    (hseen : ∀ q ∈ seen, P q.located ∧ renderAlone s q.located = .ok q) :
    recalled s seen files = naive s files := by
  induction files generalizing seen with
  | nil => rfl
  | cons relative rest ih =>
    have hproduct : product? s (reuse s seen) relative = product? s (renderAlone s) relative := by
      unfold product?
      split
      · rfl
      next hlock =>
      split
      · rfl
      · rfl
      · next located hlocate =>
        have hlocated := hfiles relative (by simp) (by simpa using hlock) located hlocate
        rw [reuse_eq_renderAlone (fun q hq => (hseen q hq).2)
          fun q hq => htext _ _ (hseen q hq).1 hlocated]
    unfold recalled naive
    rw [hproduct]
    cases hq : product? s (renderAlone s) relative with
    | error f => rfl
    | ok q =>
      dsimp only
      rw [ih (fun r hr => hfiles r (by simp [hr]))]
      intro x hx
      rcases List.mem_append.mp hx with hx | hx
      · exact hseen x hx
      · obtain rfl : q = some x := by simpa using hx
        obtain ⟨hlock, located, hlocate, hrender⟩ := exists_located_of_product? hq
        have hlocated := (renderAlone_eq_ok_iff.mp hrender).1
        rw [hlocated]
        exact ⟨hfiles relative (by simp) hlock located hlocate, hrender⟩

/-- Where templates are read by their keys, remembering renders makes no difference. -/
theorem recalled_eq_naive {s : Setting} {files : List String} {seen : List Product}
    (hread : ∀ relative ∈ files, isLockfile relative = false → ∀ located,
      s.locator.locate s.tree relative = .ok (some located) → ReadByKey s located)
    (hseen : ∀ q ∈ seen, ReadByKey s q.located ∧ renderAlone s q.located = .ok q) :
    recalled s seen files = naive s files :=
  recalled_eq_naive_of_text (fun _ _ => text_eq_of_key) hread hseen

/-- Something is located in a file that is not the lockfile. -/
def IsLocatedIn (s : Setting) (relative : String) (located : Located) : Prop :=
  isLockfile relative = false ∧ s.locator.locate s.tree relative = .ok (some located)

theorem exists_of_mem_recalled {s : Setting} {seen : List Product} {files : List String}
    {qs : List Product} (h : recalled s seen files = .ok qs) {q : Product} (hq : q ∈ qs) :
    ∃ relative ∈ files, IsLocatedIn s relative q.located := by
  induction files generalizing seen qs with
  | nil =>
    obtain rfl := Except.ok.inj h
    simp at hq
  | cons first rest ih =>
    obtain ⟨found, more, hfound, hrest, rfl⟩ := recalled_cons_eq_ok_iff.mp h
    rcases List.mem_append.mp hq with hq | hq
    · obtain rfl : found = some q := by simpa using hq
      obtain ⟨hlock, located, hlocate, hreuse⟩ := exists_located_of_product? hfound
      exact ⟨first, by simp, hlock, located_of_reuse hreuse ▸ hlocate⟩
    · obtain ⟨relative, hr, hlocated⟩ := ih hrest hq
      exact ⟨relative, by simp [hr], hlocated⟩

/-- Every product comes from a selected file. -/
theorem exists_of_mem_naive {s : Setting} {files : List String} {qs : List Product}
    (h : naive s files = .ok qs) {q : Product} (hq : q ∈ qs) :
    ∃ relative ∈ files, isLockfile relative = false ∧
      s.locator.locate s.tree relative = .ok (some q.located) ∧
      s.engine q.located.text s.context = .ok q.text := by
  induction files generalizing qs with
  | nil =>
    obtain rfl := Except.ok.inj h
    simp at hq
  | cons relative rest ih =>
    unfold naive at h
    split at h
    · simp at h
    next p hp =>
    cases hrest : naive s rest with
    | error f => simp [hrest, Except.map] at h
    | ok qs' =>
      rw [hrest] at h
      obtain rfl := Except.ok.inj h
      rcases List.mem_append.mp hq with hq | hq
      · obtain rfl : p = some q := by simpa using hq
        obtain ⟨hlock, located, hlocate, hrender⟩ := exists_located_of_product? hp
        obtain ⟨rfl, htext⟩ := renderAlone_eq_ok_iff.mp hrender
        exact ⟨relative, by simp, hlock, hlocate, htext⟩
      · obtain ⟨r, hr, hspec⟩ := ih hrest hq
        exact ⟨r, by simp [hr], hspec⟩

/-! ## Files that can be templates -/

/-- A template has the marker in its name and is not the lockfile. -/
def isSource (m : Marker) (relative : String) : Bool :=
  !isLockfile relative && ((Path.mk relative).fileName?.bind m.outputName).isSome

/-- What is located in a file makes the file one that can be a template. -/
theorem isSource_of_finds {l : Locator} {t : FileTree} {relative : String} {located : Located}
    (hlock : isLockfile relative = false) (h : Locator.Finds l t relative located) :
    isSource l.marker relative = true := by
  unfold isSource
  cases h with
  | inPlace hname => simp [hlock, hname]
  | child hname => simp [hlock, hname]

theorem product?_of_not_isSource {s : Setting} {relative : String}
    (h : isSource s.locator.marker relative = false) (render : Located → Except Failure Product) :
    product? s render relative = .ok none := by
  unfold product?
  by_cases hlock : isLockfile relative = true
  · simp [hlock]
  · have hname : (Path.mk relative).fileName?.bind s.locator.marker.outputName = none := by
      simpa [isSource, hlock] using h
    have hnone : s.locator.locate s.tree relative = .ok none := Locator.locate_eq_none_iff.mpr hname
    simp [hlock, hnone]

/-- Files that cannot be templates make no difference. -/
theorem recalled_filter (s : Setting) (seen : List Product) (files : List String) :
    recalled s seen (files.filter (isSource s.locator.marker)) = recalled s seen files := by
  induction files generalizing seen with
  | nil => rfl
  | cons relative rest ih =>
    by_cases hs : isSource s.locator.marker relative = true
    · rw [List.filter_cons_of_pos hs]
      unfold recalled
      simp only [ih]
    · rw [List.filter_cons_of_neg hs, ih]
      conv_rhs => unfold recalled
      rw [product?_of_not_isSource (by simpa using hs)]
      cases hrest : recalled s seen rest <;> simp [hrest, Except.map]

/-- Where the same is located in all files, the same comes out. -/
theorem recalled_congr {s : Setting} {u : FileTree} {files : List String}
    (h : ∀ relative ∈ files, s.locator.locate u relative = s.locator.locate s.tree relative)
    (seen : List Product) : recalled { s with tree := u } seen files = recalled s seen files := by
  induction files generalizing seen with
  | nil => rfl
  | cons relative rest ih =>
    have hreuse : reuse { s with tree := u } seen = reuse s seen := rfl
    have hproduct : product? { s with tree := u } (reuse { s with tree := u } seen) relative =
        product? s (reuse s seen) relative := by
      unfold product?
      rw [hreuse, h relative (by simp)]
    unfold recalled
    rw [hproduct]
    simp only [ih fun r hr => h r (by simp [hr])]

/-- In a walk that succeeds something is located in every file that can be a template. -/
theorem exists_mem_of_isSource {s : Setting} {seen : List Product} {files : List String}
    {qs : List Product} (h : recalled s seen files = .ok qs) {relative : String}
    (hr : relative ∈ files) (hs : isSource s.locator.marker relative = true) :
    ∃ q ∈ qs, s.locator.locate s.tree relative = .ok (some q.located) := by
  induction files generalizing seen qs with
  | nil => simp at hr
  | cons first rest ih =>
    obtain ⟨found, more, hfound, hrest, rfl⟩ := recalled_cons_eq_ok_iff.mp h
    rcases List.mem_cons.mp hr with rfl | hr
    · simp only [isSource, Bool.and_eq_true, Bool.not_eq_true'] at hs
      obtain ⟨hlock, hname⟩ := hs
      unfold product? at hfound
      rw [hlock] at hfound
      simp only [Bool.false_eq_true, if_false] at hfound
      split at hfound
      · simp at hfound
      · next hnone => simp [Locator.locate_eq_none_iff.mp hnone] at hname
      · next located hlocate =>
        cases hq : reuse s seen located with
        | error f => simp [hq, Except.map] at hfound
        | ok q =>
          obtain rfl : some q = found := by simpa [hq, Except.map] using hfound
          refine ⟨q, by simp, ?_⟩
          rw [located_of_reuse hq, hlocate]
    · obtain ⟨q, hq, hlocate⟩ := ih hrest hr
      exact ⟨q, by simp [hq], hlocate⟩

end Run
end Stencil
