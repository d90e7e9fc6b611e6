import Runlane.Fleet.Isolation
import Runlane.Lib.Alike

/-!
The order in which a directory lists its entries.

A directory is read in whatever order the operating system gives, at every
depth, and fragments of one overlay tier override each other in the order they
are loaded. The files are sorted by their paths before the first is read, and no
two entries of a directory share a name, so what a repository means does not
depend on the listing: two listings load the same repository or report the same
refusal, except that of several unreadable entries either may be named.
-/

namespace Runlane

namespace Fleet

theorem pathLe_total (left right : List String) : pathLe left right ∨ pathLe right left := by
  induction left generalizing right with
  | nil => exact .inl rfl
  | cons name left ih =>
      cases right with
      | nil => exact .inr rfl
      | cons name' right =>
          by_cases same : name = name'
          · subst same
            simpa [pathLe] using ih right
          · have other : name' ≠ name := fun h => same h.symm
            simpa [pathLe, same, other] using String.le_total name name'

theorem pathLe_antisymm (left right : List String) (below : pathLe left right)
    (above : pathLe right left) : left = right := by
  induction left generalizing right with
  | nil =>
      cases right with
      | nil => rfl
      | cons name' right => cases above
  | cons name left ih =>
      cases right with
      | nil => cases below
      | cons name' right =>
          by_cases same : name = name'
          · subst same
            simp only [pathLe, if_true] at below above
            rw [ih right below above]
          · have other : name' ≠ name := fun h => same h.symm
            simp only [pathLe, same, other, if_false, decide_eq_true_eq] at below above
            exact (same (String.le_antisymm below above)).elim

theorem pathLe_trans (left middle right : List String) (below : pathLe left middle)
    (above : pathLe middle right) : pathLe left right := by
  induction left generalizing middle right with
  | nil => rfl
  | cons name left ih =>
      cases middle with
      | nil => cases below
      | cons name' middle =>
          cases right with
          | nil => cases above
          | cons name'' right =>
              simp only [pathLe] at below above ⊢
              by_cases first : name = name'
              · subst first
                by_cases second : name = name''
                · simp only [second, if_true] at below above ⊢
                  exact ih middle right below above
                · simpa only [second, if_false] using above
              · simp only [first, if_false, decide_eq_true_eq] at below
                by_cases second : name' = name''
                · subst second
                  simpa only [first, if_false, decide_eq_true_eq] using below
                · simp only [second, if_false, decide_eq_true_eq] at above
                  have between : name ≠ name'' := by
                    rintro rfl
                    exact first (String.le_antisymm below above)
                  simpa only [between, if_false, decide_eq_true_eq] using
                    String.le_trans below above

def DirEntry.name? : DirEntry → Option String
  | .file name _ | .directory name _ | .unreadable name _ => some name
  | .failed _ => none

mutual

/-- No two entries of a directory share a name, at any depth. -/
def DirEntry.DistinctlyNamed : DirEntry → Prop
  | .directory _ entries => DistinctlyNamed entries
  | _ => True

def DistinctlyNamed : List DirEntry → Prop
  | [] => True
  | entry :: entries =>
      (∀ name, entry.name? = some name → ∀ other ∈ entries, other.name? ≠ some name) ∧
        entry.DistinctlyNamed ∧ DistinctlyNamed entries

end

/-- Two listings of one directory: the same entries, in any order at every depth. -/
inductive Relisted : List DirEntry → List DirEntry → Prop
  | nil : Relisted [] []
  | entry (entry : DirEntry) {entries entries' : List DirEntry} :
      Relisted entries entries' → Relisted (entry :: entries) (entry :: entries')
  | inside (name : String) {inner inner' entries entries' : List DirEntry} :
      Relisted inner inner' → Relisted entries entries' →
        Relisted (.directory name inner :: entries) (.directory name inner' :: entries')
  | swap (entry entry' : DirEntry) (entries : List DirEntry) :
      Relisted (entry :: entry' :: entries) (entry' :: entry :: entries)
  | trans {first second third : List DirEntry} :
      Relisted first second → Relisted second third → Relisted first third

/-- Two trees whose directories exist, and are listed, alike. -/
inductive RelistedDirectory :
    Option (Except String (List DirEntry)) → Option (Except String (List DirEntry)) → Prop
  | absent : RelistedDirectory none none
  | unlisted (source : String) : RelistedDirectory (some (.error source)) (some (.error source))
  | listed {entries entries' : List DirEntry} : DistinctlyNamed entries →
      Relisted entries entries' → RelistedDirectory (some (.ok entries)) (some (.ok entries'))

/-- Two refusals are the same, or each names an entry that cannot be read. -/
inductive SameRefusal : FleetLoadError → FleetLoadError → Prop
  | same (e : FleetLoadError) : SameRefusal e e
  | unread (path source path' source' : String) :
      SameRefusal (.io path source) (.io path' source')

theorem SameRefusal.trans (e e' e'' : FleetLoadError) (first : SameRefusal e e')
    (second : SameRefusal e' e'') : SameRefusal e e'' := by
  cases first with
  | same => exact second
  | unread path source path' source' =>
      cases second with
      | same => exact .unread path source path' source'
      | unread _ _ path'' source'' => exact .unread path source path'' source''

section Collection

variable (root : String)

mutual

/-- Collecting the files of an entry can only fail to read it. -/
theorem DirEntry.yamlFiles_error (entry : DirEntry) (directory : List String) (e : FleetLoadError)
    (failed : entry.yamlFiles root directory = .error e) :
    ∃ path source, e = .io path source := by
  cases entry with
  | file name body => cases failed
  | directory name entries => exact collectYamlPaths_error entries _ e failed
  | unreadable name source =>
      cases failed
      exact ⟨_, _, rfl⟩
  | failed source =>
      cases failed
      exact ⟨_, _, rfl⟩

theorem collectYamlPaths_error (entries : List DirEntry) (directory : List String)
    (e : FleetLoadError) (failed : collectYamlPaths root directory entries = .error e) :
    ∃ path source, e = .io path source := by
  cases entries with
  | nil => cases failed
  | cons entry entries =>
      rw [collectYamlPaths, Fallible.bind_eq_error] at failed
      cases failed with
      | inl first => exact DirEntry.yamlFiles_error entry directory e first
      | inr later =>
          obtain ⟨files, -, rest⟩ := later
          rw [Fallible.bind_eq_error] at rest
          cases rest with
          | inl second => exact collectYamlPaths_error entries directory e second
          | inr never =>
              obtain ⟨others, -, impossible⟩ := never
              exact (Fallible.pure_ne_error impossible).elim

end

theorem collectYamlPaths_cons (directory : List String) (entry : DirEntry)
    (entries : List DirEntry) :
    collectYamlPaths root directory (entry :: entries) =
      entry.yamlFiles root directory >>= fun files =>
        collectYamlPaths root directory entries >>= fun others => pure (files ++ others) := by
  rw [collectYamlPaths]

theorem collect_alike {directory : List String} {entry entry' : DirEntry}
    {entries entries' : List DirEntry}
    (first : Alike SameRefusal List.Perm (entry.yamlFiles root directory)
      (entry'.yamlFiles root directory))
    (rest : Alike SameRefusal List.Perm (collectYamlPaths root directory entries)
      (collectYamlPaths root directory entries')) :
    Alike SameRefusal List.Perm (collectYamlPaths root directory (entry :: entries))
      (collectYamlPaths root directory (entry' :: entries')) := by
  rw [collectYamlPaths_cons, collectYamlPaths_cons]
  refine first.bind fun files files' files_perm => rest.bind fun others others' others_perm => ?_
  exact .ok (files_perm.append others_perm)

/-- Whatever the order, the same files are collected, or some entry cannot be read. -/
theorem collectYamlPaths_relisted {entries entries' : List DirEntry}
    (relisted : Relisted entries entries') (directory : List String) :
    Alike SameRefusal List.Perm (collectYamlPaths root directory entries)
      (collectYamlPaths root directory entries') := by
  induction relisted generalizing directory with
  | nil => exact .ok (List.Perm.refl _)
  | entry entry _ ih =>
      exact collect_alike root (.of_eq .same List.Perm.refl rfl) (ih directory)
  | inside name _ _ ihInner ih =>
      refine collect_alike root ?_ (ih directory)
      rw [DirEntry.yamlFiles, DirEntry.yamlFiles]
      exact ihInner (directory ++ [name])
  | swap entry entry' entries =>
      rw [collectYamlPaths_cons, collectYamlPaths_cons, collectYamlPaths_cons,
        collectYamlPaths_cons]
      cases first : entry.yamlFiles root directory with
      | error e =>
          obtain ⟨path, source, rfl⟩ := DirEntry.yamlFiles_error root entry directory e first
          cases second : entry'.yamlFiles root directory with
          | error e' =>
              obtain ⟨path', source', rfl⟩ :=
                DirEntry.yamlFiles_error root entry' directory e' second
              exact .error (.unread path source path' source')
          | ok files' => exact .error (.same _)
      | ok files =>
          cases second : entry'.yamlFiles root directory with
          | error e' => exact .error (.same _)
          | ok files' =>
              cases rest : collectYamlPaths root directory entries with
              | error e => exact .error (.same _)
              | ok others =>
                  have moved : (files ++ (files' ++ others)).Perm (files' ++ (files ++ others)) :=
                    by
                      rw [← List.append_assoc, ← List.append_assoc]
                      exact List.perm_append_comm.append_right others
                  exact .ok moved
  | trans _ _ ih ih' =>
      exact (ih directory).trans SameRefusal.trans (fun _ _ _ => List.Perm.trans) (ih' directory)

mutual

/-- The files of an entry lie below it. -/
theorem DirEntry.yamlFiles_below (entry : DirEntry) (directory : List String)
    (files : List YamlFile) (collected : entry.yamlFiles root directory = .ok files) :
    ∀ file ∈ files, ∃ name rest, entry.name? = some name ∧
      file.components = directory ++ name :: rest := by
  intro file member
  cases entry with
  | file name body =>
      simp only [DirEntry.yamlFiles, Except.ok.injEq] at collected
      subst collected
      by_cases wanted : isYamlName name
      · rw [if_pos wanted, List.mem_singleton] at member
        subst member
        exact ⟨name, [], rfl, rfl⟩
      · rw [if_neg wanted] at member
        cases member
  | directory name entries =>
      rw [DirEntry.yamlFiles] at collected
      obtain ⟨rest, below⟩ :=
        collectYamlPaths_below entries (directory ++ [name]) files collected file member
      rw [List.append_assoc, List.singleton_append] at below
      exact ⟨name, rest, rfl, below⟩
  | unreadable name source => cases collected
  | failed source => cases collected

theorem collectYamlPaths_below (entries : List DirEntry) (directory : List String)
    (files : List YamlFile) (collected : collectYamlPaths root directory entries = .ok files) :
    ∀ file ∈ files, ∃ rest, file.components = directory ++ rest := by
  intro file member
  cases entries with
  | nil =>
      cases collected
      cases member
  | cons entry entries =>
      rw [collectYamlPaths_cons, Fallible.bind_eq_ok] at collected
      obtain ⟨own, first, rest⟩ := collected
      rw [Fallible.bind_eq_ok] at rest
      obtain ⟨others, second, joined⟩ := rest
      cases joined
      cases List.mem_append.mp member with
      | inl here =>
          obtain ⟨name, rest, -, below⟩ :=
            DirEntry.yamlFiles_below entry directory own first file here
          exact ⟨name :: rest, below⟩
      | inr there => exact collectYamlPaths_below entries directory others second file there

end

/-- The files of a list of entries lie below entries of the list. -/
theorem collectYamlPaths_named (entries : List DirEntry) (directory : List String)
    (files : List YamlFile) (collected : collectYamlPaths root directory entries = .ok files) :
    ∀ file ∈ files, ∃ entry ∈ entries, ∃ name rest, entry.name? = some name ∧
      file.components = directory ++ name :: rest := by
  induction entries generalizing files with
  | nil =>
      cases collected
      exact nofun
  | cons entry entries ih =>
      rw [collectYamlPaths_cons, Fallible.bind_eq_ok] at collected
      obtain ⟨own, first, rest⟩ := collected
      rw [Fallible.bind_eq_ok] at rest
      obtain ⟨others, second, joined⟩ := rest
      cases joined
      intro file member
      cases List.mem_append.mp member with
      | inl here =>
          exact ⟨entry, List.mem_cons_self,
            DirEntry.yamlFiles_below root entry directory own first file here⟩
      | inr there =>
          obtain ⟨other, inside, below⟩ := ih others second file there
          exact ⟨other, List.mem_cons_of_mem entry inside, below⟩

mutual

/-- Where names are distinct, no path is collected twice. -/
theorem DirEntry.yamlFiles_nodup (entry : DirEntry) (directory : List String)
    (files : List YamlFile) (distinct : entry.DistinctlyNamed)
    (collected : entry.yamlFiles root directory = .ok files) :
    (files.map YamlFile.components).Nodup := by
  cases entry with
  | file name body =>
      simp only [DirEntry.yamlFiles, Except.ok.injEq] at collected
      subst collected
      by_cases wanted : isYamlName name <;> simp [wanted]
  | directory name entries =>
      rw [DirEntry.DistinctlyNamed] at distinct
      rw [DirEntry.yamlFiles] at collected
      exact collectYamlPaths_nodup entries (directory ++ [name]) files distinct collected
  | unreadable name source => cases collected
  | failed source => cases collected

theorem collectYamlPaths_nodup (entries : List DirEntry) (directory : List String)
    (files : List YamlFile) (distinct : DistinctlyNamed entries)
    (collected : collectYamlPaths root directory entries = .ok files) :
    (files.map YamlFile.components).Nodup := by
  cases entries with
  | nil =>
      cases collected
      exact List.nodup_nil
  | cons entry entries =>
      rw [collectYamlPaths_cons, Fallible.bind_eq_ok] at collected
      obtain ⟨own, first, rest⟩ := collected
      rw [Fallible.bind_eq_ok] at rest
      obtain ⟨others, second, joined⟩ := rest
      cases joined
      rw [DistinctlyNamed] at distinct
      obtain ⟨unshared, inner, later⟩ := distinct
      rw [List.map_append, List.nodup_append]
      refine ⟨DirEntry.yamlFiles_nodup entry directory own inner first,
        collectYamlPaths_nodup entries directory others later second, ?_⟩
      intro path here path' there same
      obtain ⟨file, member, rfl⟩ := List.mem_map.mp here
      obtain ⟨file', member', rfl⟩ := List.mem_map.mp there
      obtain ⟨name, rest, named, below⟩ :=
        DirEntry.yamlFiles_below root entry directory own first file member
      obtain ⟨other, inside, name', rest', named', below'⟩ :=
        collectYamlPaths_named root entries directory others second file' member'
      have joined : directory ++ name :: rest = directory ++ name' :: rest' :=
        below.symm.trans (same.trans below')
      have shared : name = name' := (List.cons.inj (List.append_cancel_left joined)).1
      exact unshared name named other inside (shared ▸ named')

end

/-- Sorting by path forgets the listing, since no two files share a path. -/
theorem yamlPaths_relisted (directory : String) {entries entries' : List DirEntry}
    (distinct : DistinctlyNamed entries) (relisted : Relisted entries entries') :
    Alike SameRefusal Eq (yamlPaths root directory (.ok entries))
      (yamlPaths root directory (.ok entries')) := by
  have collected := (collectYamlPaths_relisted root relisted [directory]).strengthen
    (collectYamlPaths_nodup root entries [directory] · distinct)
  refine collected.bind fun files files' same => ?_
  have sorted := List.Perm.insertionSort_eq pathLe_total pathLe_trans pathLe_antisymm
    same.1 same.2
  exact .ok sorted

theorem loadDocuments_relisted {α : Type} {tree tree' : FleetTree} (yaml : FleetYaml)
    (directory : String) (parser : String → String → Except FleetLoadError α)
    (relisted : RelistedDirectory (tree directory) (tree' directory)) :
    Alike SameRefusal Eq (loadDocuments root tree yaml directory parser)
      (loadDocuments root tree' yaml directory parser) := by
  unfold loadDocuments
  cases first : tree directory with
  | none =>
      rw [first] at relisted
      cases second : tree' directory with
      | none => exact .ok rfl
      | some listing =>
          rw [second] at relisted
          cases relisted
  | some listing =>
      rw [first] at relisted
      cases second : tree' directory with
      | none =>
          rw [second] at relisted
          cases relisted
      | some listing' =>
          rw [second] at relisted
          cases relisted with
          | unlisted source => exact .error (.same _)
          | listed distinct relisted =>
              exact (yamlPaths_relisted root directory distinct relisted).bind_same .same

end Collection

end Fleet

open Fleet

/-- A repository means the same however its directories are listed. -/
theorem fleet_listing_order (root : String) (tree tree' : FleetTree) (yaml : FleetYaml)
    (relisted : ∀ directory, RelistedDirectory (tree directory) (tree' directory)) :
    FleetRepository.load root tree yaml = FleetRepository.load root tree' yaml ∨
      ∃ path source path' source',
        FleetRepository.load root tree yaml = .error (.io path source) ∧
          FleetRepository.load root tree' yaml = .error (.io path' source') := by
  have alike : Alike SameRefusal Eq (FleetRepository.load root tree yaml)
      (FleetRepository.load root tree' yaml) := by
    unfold FleetRepository.load
    refine (loadDocuments_relisted root yaml "inventory" _ (relisted _)).bind ?_
    rintro inventory - rfl
    refine (loadDocuments_relisted root yaml "roles" _ (relisted _)).bind ?_
    rintro roles - rfl
    refine (loadDocuments_relisted root yaml "runbooks" _ (relisted _)).bind ?_
    rintro runbooks - rfl
    refine (loadDocuments_relisted root yaml "policies" _ (relisted _)).bind ?_
    rintro policies - rfl
    refine (loadDocuments_relisted root yaml "allowlists" _ (relisted _)).bind ?_
    rintro allowlists - rfl
    exact (loadDocuments_relisted root yaml "overlays" _ (relisted _)).bind_same .same
  generalize FleetRepository.load root tree yaml = first at alike
  generalize FleetRepository.load root tree' yaml = second at alike
  cases alike with
  | ok same => exact .inl (congrArg Except.ok same)
  | error refused =>
      cases refused with
      | same => exact .inl rfl
      | unread path source path' source' => exact .inr ⟨path, source, path', source', rfl, rfl⟩

namespace Fleet

/-- The sample repository, with the overlays of its operating systems listed the other way. -/
def relistedTree (directory : String) : Option (Except String (List DirEntry)) :=
  if directory = "overlays" then
    some (.ok [.directory "os"
      [.file "freebsd.yaml" (.ok (osOverlay "freebsd" "freebsd-rc")),
        .file "linux.yaml" (.ok (osOverlay "linux" "systemd"))]])
  else sampleTree directory

theorem relisted_self (entries : List DirEntry) : Relisted entries entries := by
  induction entries with
  | nil => exact .nil
  | cons entry entries ih => exact .entry entry ih

theorem relistedTree_relists (directory : String) :
    RelistedDirectory (sampleTree directory) (relistedTree directory) := by
  by_cases overlays : directory = "overlays"
  · subst overlays
    exact .listed (by simp [DistinctlyNamed, DirEntry.DistinctlyNamed, DirEntry.name?])
      (.inside "os" (.swap _ _ []) .nil)
  · rw [relistedTree, if_neg overlays]
    unfold sampleTree
    split
    · exact .listed (by simp [DistinctlyNamed, DirEntry.DistinctlyNamed]) (relisted_self _)
    · exact .listed (by simp [DistinctlyNamed, DirEntry.DistinctlyNamed]) (relisted_self _)
    · exact (overlays rfl).elim
    · exact .absent

end Fleet

theorem fleet_listing_order_overlays :
    FleetRepository.load "fleet" sampleTree sampleFleetYaml =
        FleetRepository.load "fleet" relistedTree sampleFleetYaml ∨
      ∃ path source path' source',
        FleetRepository.load "fleet" sampleTree sampleFleetYaml = .error (.io path source) ∧
          FleetRepository.load "fleet" relistedTree sampleFleetYaml = .error (.io path' source') :=
  fleet_listing_order "fleet" sampleTree relistedTree sampleFleetYaml relistedTree_relists

end Runlane
