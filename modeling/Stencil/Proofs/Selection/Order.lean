import Stencil.Proofs.Selection
import Stencil.Proofs.Text.ByteOrder

/-! What is selected, and in which order. Main statement: the selected paths of a root are those of
the files below it that are not ignored themselves and are in no ignored directory, each once, and
component by component in the order of their bytes. -/
namespace Stencil
namespace Selection

open FileTree Stencil.Path

/-- The bytes of a path, component by component. -/
def octets (path : String) : List (List UInt8) := (Path.pieces ⟨path⟩).map Text.octets

/-- A file below a directory that is not reached by a link, and is neither ignored itself nor in an
ignored directory. -/
structure IsSelected (t : FileTree) (spec : IgnoreSpec) (top : Location) (names : List String) :
    Prop where
  ne_nil : names ≠ []
  file : ∃ bytes, t.get? (top ++ names) = some (.file bytes)
  directories : ∀ dir below, names = dir ++ below → below ≠ [] →
    t.get? (top ++ dir) = some .directory
  kept : spec.isIgnored (ofNames names) false = false
  entered : ∀ dir below, names = dir ++ below → dir ≠ [] → below ≠ [] →
    spec.isIgnored (ofNames dir) true = false

/-- The walk passes by every directory on the way to a file. -/
theorem passes_iff {spec : IgnoreSpec} {names rest : List String} :
    Passes spec names rest ↔ rest ≠ [] ∧ spec.isIgnored (ofNames (names ++ rest)) false = false ∧
      ∀ dir below, rest = dir ++ below → dir ≠ [] → below ≠ [] →
        spec.isIgnored (ofNames (names ++ dir)) true = false := by
  induction rest generalizing names with
  | nil => simp [Passes]
  | cons name rest ih =>
    cases rest with
    | nil =>
      refine ⟨fun h => ⟨by simp, h, fun dir below hsplit hdir hbelow => ?_⟩, fun h => h.2.1⟩
      cases dir with
      | nil => exact absurd rfl hdir
      | cons _ dir => simp_all
    | cons x rest =>
      change (_ ∧ Passes spec (names ++ [name]) (x :: rest)) ↔ _
      rw [ih, List.append_assoc, List.singleton_append]
      constructor
      · rintro ⟨hname, -, hfile, hdirs⟩
        refine ⟨by simp, hfile, fun dir below hsplit hdir hbelow => ?_⟩
        cases dir with
        | nil => exact absurd rfl hdir
        | cons y dir =>
          obtain ⟨rfl, hrest⟩ := List.cons.inj hsplit
          by_cases hnil : dir = []
          · rwa [hnil]
          · simpa using hdirs dir below hrest hnil hbelow
      · rintro ⟨-, hfile, hdirs⟩
        refine ⟨hdirs [name] (x :: rest) rfl (by simp) (by simp), by simp, hfile,
          fun dir below hsplit _ hbelow => ?_⟩
        simpa using hdirs (name :: dir) below (by simp [hsplit]) (by simp) hbelow

theorem mem_below_top_iff {t : FileTree} (hw : WellFormed t) {spec : IgnoreSpec} {top : Location}
    {names : List String} :
    names ∈ below t spec (depth t) top [] ↔ IsSelected t spec top names := by
  rw [mem_below_iff hw]
  constructor
  · rintro ⟨names, rfl, -, hpass, bytes, hfile⟩
    obtain ⟨hne, hkept, hentered⟩ := passes_iff.mp hpass
    refine ⟨hne, ⟨bytes, hfile⟩, fun dir below hsplit hbelow => ?_, hkept, hentered⟩
    exact hw.directory_of_prefix hbelow (by simp [← hsplit, hfile])
  · rintro ⟨hne, ⟨bytes, hfile⟩, -, hkept, hentered⟩
    have hdeep : (top ++ names).length ≤ depth t := length_le_depth (by simp [hfile])
    rw [List.length_append] at hdeep
    exact ⟨names, rfl, by omega, passes_iff.mpr ⟨hne, hkept, hentered⟩, bytes, hfile⟩

theorem octets_ofNames {names : List String} (h : ∀ n ∈ names, IsName n) (hne : names ≠ []) :
    octets (ofNames names) = names.map Text.octets := by
  rw [octets, pieces_eq, cut_ofNames (fun n hn => (h n hn).slash_notMem) hne]

/-- Selecting the files of a root succeeds, and it finds every file that is neither ignored nor in
an ignored directory, and nothing else, no link and nothing behind one. Each path is found once, and
its components are in the order of their bytes. -/
theorem files_exact {t : FileTree} {root : Path} {top : Location} (h : Rooted t root top)
    (spec : IgnoreSpec) :
    ∃ selected, files t spec root = .ok selected ∧
      (∀ path, path ∈ selected ↔ ∃ names, path = ofNames names ∧ IsSelected t spec top names) ∧
      selected.Nodup ∧ selected.Pairwise fun p q => octets p < octets q := by
  have hnames : ∀ names ∈ below t spec (depth t) top [],
      names ≠ [] ∧ ∀ n ∈ names, IsName n := by
    intro names hmem
    have hselected := (mem_below_top_iff h.wellFormed).mp hmem
    obtain ⟨bytes, hfile⟩ := hselected.file
    exact ⟨hselected.ne_nil, fun n hn =>
      h.wellFormed.names_of_isSome (Option.isSome_of_eq_some hfile) n (List.mem_append_right _ hn)⟩
  have hsorted : ((below t spec (depth t) top []).map ofNames).Pairwise
      fun p q => octets p < octets q := by
    refine List.pairwise_map.mpr ?_
    refine (sorted_below h.wellFormed spec (depth t) top []).imp_of_mem
      fun {a b} ha hb hlt => ?_
    obtain ⟨hane, hanames⟩ := hnames a ha
    obtain ⟨hbne, hbnames⟩ := hnames b hb
    rw [octets_ofNames hanames hane, octets_ofNames hbnames hbne]
    exact List.map_lt (fun _ _ => Text.octets_lt_octets) hlt
  refine ⟨_, files_eq h spec, fun path => ?_, hsorted.imp fun {p q} hlt => ?_, hsorted⟩
  · rw [List.mem_map]
    simp only [mem_below_top_iff h.wellFormed, eq_comm, and_comm]
  · rintro rfl
    exact absurd hlt (List.lt_irrefl (octets p))

/-- A directory, a file whose name goes on with a dot, a link, and a directory to be ignored. -/
def listing : FileTree :=
  ⟨["w"], [(["w"], .directory), (["w", "a"], .directory), (["w", "a", "x"], .file "".toUTF8),
    (["w", "a.b"], .file "".toUTF8), (["w", "l"], .link "a"), (["w", "out"], .directory),
    (["w", "out", "keep"], .file "".toUTF8)]⟩

/-- The rules ignore a directory and keep a file in it. -/
def exceptKeep : IgnoreSpec :=
  ⟨".", (IgnoreSpec.readRules ["/out/", "!out/keep"]).toOption.getD []⟩

set_option maxRecDepth 100000

theorem files_exact_listing :
    files listing exceptKeep ⟨"."⟩ = .ok ["a/x", "a.b"] ∧
      ["a/x", "a.b"].Pairwise (fun p q => octets p < octets q) ∧
      exceptKeep.isIgnored "out/keep" false = false ∧
      ¬ IsSelected listing exceptKeep ["w"] ["out", "keep"] := by
  have hroot : Rooted listing ⟨"."⟩ ["w"] :=
    ⟨.of_entries rfl (by decide +kernel), resolve_eq_found (by decide +kernel) (by decide +kernel)⟩
  obtain ⟨selected, hfiles, hmem, -, hsorted⟩ := files_exact hroot exceptKeep
  have heval : (files listing exceptKeep ⟨"."⟩).toOption = some ["a/x", "a.b"] := by
    decide +kernel
  rw [hfiles] at heval
  obtain rfl : selected = ["a/x", "a.b"] := Option.some.inj heval
  refine ⟨hfiles, hsorted, by decide +kernel, fun hselected => ?_⟩
  exact absurd ((hmem "out/keep").mpr ⟨["out", "keep"], by decide +kernel, hselected⟩) (by decide)

end Selection
end Stencil
