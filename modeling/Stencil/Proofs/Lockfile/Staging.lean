import Stencil.Proofs.Lockfile.Cache

/-! Staging. Main statement: whatever is called on a cache, a lookup finds the last fingerprint that
was staged before the last time of applying, or the loaded one if there is none, as long as its key
led to something whenever entries were dropped since. -/
namespace Stencil
namespace Lockfile
namespace Cache

/-- A call on a cache. What is staged is applied in the tree of that moment. -/
inductive Call where
  | fingerprintOf (key : String)
  | stage (key : String) (fingerprint : UInt32)
  | applyStaged (t : FileTree)

namespace Call

def stages (key : String) : Call → Bool
  | stage other _ => other == key
  | _ => false

def applies : Call → Bool
  | applyStaged _ => true
  | _ => false

/-- Entries of the key are not dropped. -/
def keeps (root : Path) (key : String) : Call → Bool
  | applyStaged t => t.exists? (root.join key)
  | _ => true

end Call

variable {root : Path} {c : Cache} {key : String} {calls later : List Call} {fingerprint : UInt32}

/-- The cache after a call. -/
def after (root : Path) (c : Cache) : Call → Cache
  | .fingerprintOf _ => c
  | .stage key fingerprint => c.stage key fingerprint
  | .applyStaged t => c.applyStaged (present t root)

def afterAll (root : Path) (c : Cache) (calls : List Call) : Cache := calls.foldl (after root) c

@[simp] theorem afterAll_nil : afterAll root c [] = c := rfl

@[simp] theorem afterAll_cons (call : Call) :
    afterAll root c (call :: calls) = afterAll root (after root c call) calls := rfl

@[simp] theorem afterAll_append (more : List Call) :
    afterAll root c (calls ++ more) = afterAll root (afterAll root c calls) more :=
  List.foldl_append

/-- Nothing is applied once the key has been staged. -/
def Unapplied (key : String) (calls : List Call) : Prop :=
  calls.Pairwise fun a b => ¬ (a.stages key = true ∧ b.applies = true)

/-- The last fingerprint staged for the key before the last time of applying. `later` are the calls
after it was applied. -/
def LastApplied (key : String) (calls : List Call) (fingerprint : UInt32) (later : List Call) :
    Prop :=
  ∃ before between t,
    calls = before ++ .stage key fingerprint :: between ++ .applyStaged t :: later ∧
      (∀ call ∈ between, call.applies = false ∧ call.stages key = false) ∧ Unapplied key later

/-! ## One call -/

theorem Call.exists_of_stages {call : Call} (h : call.stages key = true) :
    ∃ fingerprint, call = .stage key fingerprint := by
  cases call with
  | stage other fingerprint => exact ⟨fingerprint, by simpa [stages] using h⟩
  | fingerprintOf _ => cases h
  | applyStaged _ => cases h

theorem Call.exists_of_applies {call : Call} (h : call.applies = true) :
    ∃ t, call = .applyStaged t := by
  cases call with
  | applyStaged t => exact ⟨t, rfl⟩
  | fingerprintOf _ => cases h
  | stage _ _ => cases h

theorem Call.keeps_of_not_applies {call : Call} (h : call.applies = false) :
    call.keeps root key = true := by
  cases call with
  | fingerprintOf _ => rfl
  | stage _ _ => rfl
  | applyStaged t => cases h

/-- Lookups change only when what is staged is applied. -/
theorem fingerprintOf_after_of_not_applies {call : Call} (h : call.applies = false) (c : Cache)
    (key : String) : (after root c call).fingerprintOf key = c.fingerprintOf key := by
  cases call with
  | fingerprintOf _ => rfl
  | stage _ _ => rfl
  | applyStaged t => cases h

theorem staged_after_of_not_stages {call : Call} (ha : call.applies = false)
    (hs : call.stages key = false) (c : Cache) :
    (after root c call).staged.get? key = c.staged.get? key := by
  cases call with
  | fingerprintOf _ => rfl
  | stage other fingerprint =>
    have hne : other ≠ key := by simpa [Call.stages] using hs
    exact KeyMap.get?_insert_of_ne c.staged fingerprint hne.symm
  | applyStaged t => cases ha

/-! ## All calls -/

theorem fingerprintOf_afterAll_of_not_applies (h : ∀ call ∈ calls, call.applies = false)
    (c : Cache) (key : String) : (afterAll root c calls).fingerprintOf key = c.fingerprintOf key := by
  induction calls generalizing c with
  | nil => rfl
  | cons call rest ih =>
    obtain ⟨hcall, hrest⟩ := List.forall_mem_cons.mp h
    rw [afterAll_cons, ih hrest, fingerprintOf_after_of_not_applies hcall]

theorem staged_afterAll_of_not_stages
    (h : ∀ call ∈ calls, call.applies = false ∧ call.stages key = false) (c : Cache) :
    (afterAll root c calls).staged.get? key = c.staged.get? key := by
  induction calls generalizing c with
  | nil => rfl
  | cons call rest ih =>
    obtain ⟨⟨ha, hs⟩, hrest⟩ := List.forall_mem_cons.mp h
    rw [afterAll_cons, ih hrest, staged_after_of_not_stages ha hs]

/-- What is on record stays as long as its key does, while nothing staged replaces it. -/
theorem fingerprintOf_afterAll_of_unapplied (h : Unapplied key calls) {c : Cache}
    (hc : c.staged.get? key = none) : (afterAll root c calls).fingerprintOf key =
      if calls.all (Call.keeps root key) then c.fingerprintOf key else none := by
  induction calls generalizing c with
  | nil => simp
  | cons call rest ih =>
    obtain ⟨hcall, hrest⟩ := List.pairwise_cons.mp h
    rw [afterAll_cons, List.all_cons]
    cases call with
    | fingerprintOf other => exact ih hrest hc
    | stage other fingerprint =>
      by_cases hkey : other = key
      · -- nothing is applied any more, and so nothing is dropped
        subst hkey
        have hfree : ∀ call ∈ rest, call.applies = false := fun call hmem => by
          simpa [Call.stages] using hcall call hmem
        have hall : rest.all (Call.keeps root other) = true :=
          List.all_eq_true.mpr fun call hmem => Call.keeps_of_not_applies (hfree call hmem)
        rw [fingerprintOf_afterAll_of_not_applies hfree, hall]
        rfl
      · exact ih hrest ((KeyMap.get?_insert_of_ne c.staged fingerprint (Ne.symm hkey)).trans hc)
    | applyStaged t =>
      have hstep : (c.applyStaged (present t root)).fingerprintOf key =
          if t.exists? (root.join key) then c.fingerprintOf key else none := by
        rw [fingerprintOf_applyStaged, hc, Option.none_or]
        rfl
      refine (ih hrest (KeyMap.get?_empty key)).trans ?_
      rw [after, hstep]
      cases rest.all (Call.keeps root key) <;> simp [Call.keeps]

/-- What was staged last is on record from the next time of applying on, as long as its key stays. -/
theorem fingerprintOf_afterAll_of_lastApplied (h : LastApplied key calls fingerprint later)
    (c : Cache) : (afterAll root c calls).fingerprintOf key =
      if later.all (Call.keeps root key) then some fingerprint else none := by
  obtain ⟨before, between, t, rfl, hbetween, hlater⟩ := h
  rw [List.append_assoc, List.cons_append, afterAll_append, afterAll_cons, afterAll_append,
    afterAll_cons]
  generalize hstaged : afterAll root (after root (afterAll root c before)
    (.stage key fingerprint)) between = d
  have hd : d.staged.get? key = some fingerprint := by
    rw [← hstaged, staged_afterAll_of_not_stages hbetween]
    exact KeyMap.get?_insert_self _ key fingerprint
  have hrecord : (after root d (.applyStaged t)).fingerprintOf key = some fingerprint := by
    rw [after, fingerprintOf_applyStaged, hd, Option.some_or]
  rw [fingerprintOf_afterAll_of_unapplied hlater (KeyMap.get?_empty key), hrecord]

/-- Either nothing staged for the key was applied, or there is a last fingerprint that was. -/
theorem unapplied_or_lastApplied (key : String) (calls : List Call) :
    Unapplied key calls ∨ ∃ fingerprint later, LastApplied key calls fingerprint later := by
  induction calls with
  | nil => exact .inl .nil
  | cons call rest ih =>
    rcases ih with hrest | ⟨fingerprint, later, before, between, t, rfl, hbetween, hlater⟩
    · by_cases hcall : ∀ other ∈ rest, ¬ (call.stages key = true ∧ other.applies = true)
      · exact .inl (List.pairwise_cons.mpr ⟨hcall, hrest⟩)
      · -- the fingerprint is staged by this call, and applied by the first that applies
        right
        push Not at hcall
        obtain ⟨other, hother, hstages, happlies⟩ := hcall
        obtain ⟨fingerprint, rfl⟩ := Call.exists_of_stages hstages
        have hsome : (rest.find? Call.applies).isSome :=
          List.find?_isSome.mpr ⟨other, hother, happlies⟩
        obtain ⟨first, hfind⟩ := Option.isSome_iff_exists.mp hsome
        obtain ⟨hfirst, between, later, rfl, hbetween⟩ := List.find?_eq_some_iff_append.mp hfind
        obtain ⟨t, rfl⟩ := Call.exists_of_applies hfirst
        obtain ⟨-, hlater, hcross⟩ := List.pairwise_append.mp hrest
        refine ⟨fingerprint, later, [], between, t, rfl, fun call hmem => ⟨?_, ?_⟩,
          (List.pairwise_cons.mp hlater).2⟩
        · simpa using hbetween call hmem
        · simpa [Call.applies] using hcross call hmem (.applyStaged t) (by simp)
    · exact .inr ⟨fingerprint, later, call :: before, between, t, rfl, hbetween, hlater⟩

theorem fingerprintOf_open (t : FileTree) (root : Path) (force : Bool) (key : String) :
    (Cache.open t root force).1.fingerprintOf key = (recorded t root force).get? key := by
  rw [fst_open, fingerprintOf, current_start]

/-- Whatever is called on a cache that was opened: either nothing staged for a key was applied, and
the key has its loaded fingerprint as long as it led to something whenever entries were dropped, or
there is a last fingerprint that was, and it has that one as long as it did so afterwards. Until
the next time of applying no lookup changes, and after it nothing is staged. -/
theorem lookup_after_calls (t : FileTree) (root : Path) (force : Bool) (calls : List Call)
    (key : String) :
    (Unapplied key calls ∨ ∃ fingerprint later, LastApplied key calls fingerprint later) ∧
    (Unapplied key calls →
      (afterAll root (Cache.open t root force).1 calls).fingerprintOf key =
        if calls.all (Call.keeps root key) then (recorded t root force).get? key else none) ∧
    (∀ fingerprint later, LastApplied key calls fingerprint later →
      (afterAll root (Cache.open t root force).1 calls).fingerprintOf key =
        if later.all (Call.keeps root key) then some fingerprint else none) ∧
    (∀ more, (∀ call ∈ more, call.applies = false) →
      (afterAll root (Cache.open t root force).1 (calls ++ more)).fingerprintOf key =
        (afterAll root (Cache.open t root force).1 calls).fingerprintOf key) ∧
    ∀ now, (afterAll root (Cache.open t root force).1
      (calls ++ [.applyStaged now])).staged.size = 0 := by
  refine ⟨unapplied_or_lastApplied key calls, fun h => ?_, fun fingerprint later h => ?_,
    fun more h => ?_, fun now => ?_⟩
  · have hnone : (Cache.open t root force).1.staged.get? key = none := by rw [fst_open]; rfl
    rw [fingerprintOf_afterAll_of_unapplied h hnone, fingerprintOf_open]
  · exact fingerprintOf_afterAll_of_lastApplied h _
  · rw [afterAll_append, fingerprintOf_afterAll_of_not_applies h]
  · rw [afterAll_append]
    rfl

/-- A directory with nothing in it. -/
def emptyRoot : FileTree := ⟨["w"], [(["w"], .directory)]⟩

/-- What is staged for a missing path is on record until it is missed again. -/
theorem lookup_after_calls_missing :
    let calls : List Call :=
      [.stage "a.etch" 7, .stage "a.etch" 8, .applyStaged emptyRoot, .applyStaged emptyRoot]
    LastApplied "a.etch" (calls.take 3) 8 [] ∧
      (afterAll ⟨"."⟩ (Cache.open emptyRoot ⟨"."⟩ false).1 (calls.take 3)).fingerprintOf "a.etch" =
        some 8 ∧
      LastApplied "a.etch" calls 8 [.applyStaged emptyRoot] ∧
      (afterAll ⟨"."⟩ (Cache.open emptyRoot ⟨"."⟩ false).1 calls).fingerprintOf "a.etch" =
        none := by
  have hfirst : LastApplied "a.etch"
      [.stage "a.etch" 7, .stage "a.etch" 8, .applyStaged emptyRoot] 8 [] :=
    ⟨[.stage "a.etch" 7], [], emptyRoot, rfl, by simp, .nil⟩
  have hsecond : LastApplied "a.etch"
      [.stage "a.etch" 7, .stage "a.etch" 8, .applyStaged emptyRoot, .applyStaged emptyRoot] 8
      [.applyStaged emptyRoot] :=
    ⟨[.stage "a.etch" 7], [], emptyRoot, rfl, by simp, List.pairwise_singleton _ _⟩
  refine ⟨hfirst, ?_, hsecond, ?_⟩
  · exact (lookup_after_calls emptyRoot ⟨"."⟩ false _ _).2.2.1 8 [] hfirst
  · rw [(lookup_after_calls emptyRoot ⟨"."⟩ false _ _).2.2.1 8 _ hsecond]
    decide +kernel

end Cache
end Lockfile
end Stencil
