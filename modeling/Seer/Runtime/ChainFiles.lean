import Mathlib.Data.List.TakeWhile
import Seer.Runtime.Load

/-!
# One chain for each chain file

The chain directory holds one file per chain, and a chain is named after its file. The
documentation takes the file name without `.yml`; the code takes it up to the first dot.
The two agree unless something before the suffix has a dot, as in a chain id with a
version, and then a chain gets another name or replaces another chain.
-/
namespace Seer.Runtime

open Seer.Lib

/-- The file name without `.yml`. -/
def stem (file : String) : String := String.ofList (file.toList.take (file.toList.length - 4))

def isChainFile (entry : DirEntry) : Bool := !entry.isDir && hasYmlSuffix entry.name

/-- The regular files with the suffix. -/
def chainFiles (entries : List DirEntry) : List String := (entries.filter isChainFile).map (·.name)

/-- Every chain file has its chain, and the other chains of the primary file are kept. -/
structure LoadsEveryFile (entries : List DirEntry) (load : String → Except GoError RawChain)
    (primary loaded : Table String (Option RawChain)) : Prop where
  files : ∀ file ∈ chainFiles entries, ∀ raw, load file = .ok raw →
    SameSettings (some (some raw)) loaded[stem file]?
  others : ∀ name : String, name ∉ (chainFiles entries).map stem →
    SameSettings primary[name]? loaded[name]?

/-! ## Names -/

theorem toList_of_hasYmlSuffix {file : String} (suffix : hasYmlSuffix file = true) :
    file.toList = (stem file).toList ++ ymlSuffix := by
  obtain ⟨front, whole⟩ := List.isSuffixOf_iff_suffix.mp suffix
  simp [stem, ← whole, ymlSuffix]

theorem stem_injOn {file other : String} (suffix : hasYmlSuffix file = true)
    (suffix' : hasYmlSuffix other = true) (same : stem file = stem other) : file = other := by
  rw [← String.toList_inj, toList_of_hasYmlSuffix suffix, toList_of_hasYmlSuffix suffix', same]

/-- What comes before the first dot has no dot. -/
theorem dot_not_mem_chainName (file : String) : '.' ∉ (chainName file).toList := by
  intro dot
  rw [chainName, String.toList_ofList] at dot
  simpa using List.mem_takeWhile_imp dot

theorem chainName_eq_stem {file : String} (suffix : hasYmlSuffix file = true)
    (plain : '.' ∉ (stem file).toList) : chainName file = stem file := by
  rw [← String.toList_inj, chainName, String.toList_ofList, toList_of_hasYmlSuffix suffix,
    List.takeWhile_append_of_pos]
  · simp [ymlSuffix]
  · intro c member
    have apart : c ≠ '.' := fun same => plain (same ▸ member)
    simpa using apart

theorem hasYmlSuffix_of_mem {entries : List DirEntry} {file : String}
    (member : file ∈ chainFiles entries) : hasYmlSuffix file = true := by
  simp only [chainFiles, isChainFile, List.mem_map, List.mem_filter, Bool.and_eq_true] at member
  obtain ⟨entry, ⟨-, -, suffix⟩, rfl⟩ := member
  exact suffix

/-! ## The loop -/

section Loop
variable (load : String → Except GoError RawChain)

/-- One chain file, added to the chains. -/
def addChainFile (chains : Table String (Option RawChain)) (file : String) :
    Except GoError (Table String (Option RawChain)) :=
  (load file).map fun raw => chains.insert (chainName file) (some raw)

/-- The loop adds the chain files in their order and skips every other entry. -/
theorem loadChainFiles_eq (entries : List DirEntry) (chains : Table String (Option RawChain)) :
    loadChainFiles load entries chains =
      (chainFiles entries).foldlM (addChainFile load) chains := by
  induction entries generalizing chains with
  | nil => rfl
  | cons entry later ih =>
    rw [loadChainFiles, chainFiles, List.filter_cons, isChainFile]
    cases entry.isDir with
    | true => exact ih chains
    | false =>
      cases hasYmlSuffix entry.name with
      | false => exact ih chains
      | true =>
        simp only [Bool.false_eq_true, if_false, Bool.not_true, Bool.not_false, Bool.and_true,
          if_true, List.map_cons, List.foldlM_cons, addChainFile]
        cases load entry.name with
        | error cause => rfl
        | ok raw => exact ih _

variable {load} {files : List String} {chains loaded : Table String (Option RawChain)}

theorem addChainFiles_cons {file : String}
    (ok : (file :: files).foldlM (addChainFile load) chains = .ok loaded) :
    ∃ raw, load file = .ok raw ∧
      files.foldlM (addChainFile load) (chains.insert (chainName file) (some raw)) =
        .ok loaded := by
  rw [List.foldlM_cons, addChainFile] at ok
  cases read : load file with
  | error cause =>
    rw [read] at ok
    cases ok
  | ok raw =>
    rw [read] at ok
    exact ⟨raw, rfl, ok⟩

/-- A name that no chain file takes keeps its entry. -/
theorem addChainFiles_other (ok : files.foldlM (addChainFile load) chains = .ok loaded)
    {name : String} (free : ∀ file ∈ files, chainName file ≠ name) :
    loaded[name]? = chains[name]? := by
  induction files generalizing chains with
  | nil =>
    cases ok
    rfl
  | cons file later ih =>
    obtain ⟨raw, -, ok⟩ := addChainFiles_cons ok
    rw [ih ok fun other there => free other (List.mem_cons_of_mem _ there), Table.get_insert,
      if_neg (free file List.mem_cons_self)]

/-- A name that one chain file takes gets that file's chain. -/
theorem addChainFiles_file (ok : files.foldlM (addChainFile load) chains = .ok loaded)
    {file : String} {raw : RawChain} (member : file ∈ files) (read : load file = .ok raw)
    (alone : ∀ other ∈ files, chainName other = chainName file → other = file) :
    loaded[chainName file]? = some (some raw) := by
  induction files generalizing chains with
  | nil => cases member
  | cons first later ih =>
    obtain ⟨next, added, ok⟩ := addChainFiles_cons ok
    have rest : ∀ other ∈ later, chainName other = chainName file → other = file :=
      fun other there => alone other (List.mem_cons_of_mem _ there)
    by_cases again : file ∈ later
    · exact ih ok again rest
    · -- The last file to take the name is the first one of the list.
      rcases List.mem_cons.mp member with rfl | there
      · rw [read] at added
        cases added
        rw [addChainFiles_other ok, Table.get_insert_self]
        intro other there same
        exact again (rest other there same ▸ there)
      · exact absurd there again

/-- The loop ends with an error only for a file that cannot be loaded. -/
theorem addChainFiles_total (total : ∀ file, ∃ raw, load file = .ok raw) (files : List String)
    (chains : Table String (Option RawChain)) :
    ∃ loaded, files.foldlM (addChainFile load) chains = .ok loaded := by
  induction files generalizing chains with
  | nil => exact ⟨chains, rfl⟩
  | cons file later ih =>
    obtain ⟨raw, read⟩ := total file
    rw [List.foldlM_cons, addChainFile, read]
    exact ih _

/-- What adding a loaded chain keeps, the loop keeps. -/
theorem addChainFiles_invariant (holds : Table String (Option RawChain) → Prop)
    (keeps : ∀ chains name raw, holds chains → holds (chains.insert name (some raw)))
    (start : holds chains) (ok : files.foldlM (addChainFile load) chains = .ok loaded) :
    holds loaded := by
  induction files generalizing chains with
  | nil =>
    cases ok
    exact start
  | cons file later ih =>
    obtain ⟨raw, -, ok⟩ := addChainFiles_cons ok
    exact ih (keeps chains _ raw start) ok

theorem addChainFiles_nonempty (ok : files.foldlM (addChainFile load) chains = .ok loaded)
    (listed : files ≠ []) : loaded.isEmpty = false := by
  cases files with
  | nil => exact absurd rfl listed
  | cons file later =>
    obtain ⟨raw, -, ok⟩ := addChainFiles_cons ok
    refine addChainFiles_invariant (fun chains => chains.isEmpty = false) ?_ ?_ ok
    · intro chains name raw _
      simp
    · simp

end Loop

/-! ## What is loaded -/

/-- Without a dot before the suffix every file has the name that its chain should have. -/
theorem loadsEveryFile_of_plain {load : String → Except GoError RawChain}
    {primary chains loaded : Table String (Option RawChain)} {entries : List DirEntry}
    (plain : ∀ file ∈ chainFiles entries, '.' ∉ (stem file).toList)
    (ok : loadChainFiles load entries primary = .ok chains)
    (kept : ∀ name : String, SameSettings chains[name]? loaded[name]?) :
    LoadsEveryFile entries load primary loaded := by
  rw [loadChainFiles_eq] at ok
  have named : ∀ file ∈ chainFiles entries, chainName file = stem file :=
    fun file member => chainName_eq_stem (hasYmlSuffix_of_mem member) (plain file member)
  refine ⟨?_, ?_⟩
  · intro file member raw read
    have alone : ∀ other ∈ chainFiles entries, chainName other = chainName file → other = file := by
      intro other there same
      rw [named other there, named file member] at same
      exact stem_injOn (hasYmlSuffix_of_mem there) (hasYmlSuffix_of_mem member) same
    have entry := addChainFiles_file ok member read alone
    rw [named file member] at entry
    rw [← entry]
    exact kept (stem file)
  · intro name free
    have entry : chains[name]? = primary[name]? := by
      apply addChainFiles_other ok
      rintro file member rfl
      rw [named file member] at free
      exact free (List.mem_map_of_mem member)
    rw [← entry]
    exact kept name

/-- A chain that says which file it comes from. -/
def labelled (file : String) : Except GoError RawChain :=
  .ok { chain := { chainId := file }, nodes := [] }

/-- Chain files alone are loaded, whatever the directory holds. -/
theorem loadConfig_labelled (range : Range) {entries : List DirEntry}
    (listed : chainFiles entries ≠ []) (now : Time) :
    ∃ loaded, loadConfig range {} entries labelled (.ok {}) now = .ok loaded := by
  have total : ∀ file, ∃ raw, labelled file = .ok raw := fun file => ⟨_, rfl⟩
  obtain ⟨chains, ok⟩ := addChainFiles_total total (chainFiles entries) ∅
  have nonempty := addChainFiles_nonempty ok listed
  have whole : ∀ name : String, chains[name]? ≠ some none := by
    refine addChainFiles_invariant (fun chains => ∀ name : String, chains[name]? ≠ some none)
      ?_ (by simp) ok
    intro chains file raw before name
    rw [Table.get_insert]
    split
    · simp
    · exact before name
  have bound := (bindDurableState_ok_iff range chains chains).mpr ⟨rfl, whole⟩
  simp only [loadConfig, loadChainFiles_eq, ok, returned, nonempty, bound, restoreSavedState, bind,
    Except.bind, Bool.false_eq_true, if_false]
  exact ⟨_, rfl⟩

/-- For every chain directory: every chain is loaded under its file's name, whatever the
files and the primary configuration hold, if and only if no chain file has a second dot. -/
theorem chain_files_loaded_iff (range : Range) (entries : List DirEntry) :
    (∀ (primary : RawConfig) (load : String → Except GoError RawChain)
        (state : Except GoError SavedState) (now : Time) (loaded : RawConfig),
      loadConfig range primary entries load state now = .ok loaded →
      LoadsEveryFile entries load primary.chains loaded.chains) ↔
    ∀ file ∈ chainFiles entries, '.' ∉ (stem file).toList := by
  constructor
  · intro right file member dot
    obtain ⟨loaded, ok⟩ := loadConfig_labelled range (List.ne_nil_of_mem member) 0
    have expected := (right _ _ _ _ _ ok).files file member _ rfl
    obtain ⟨chains, loading, kept⟩ := loadConfig_settings ok
    -- The name with a dot is one that no chain file takes.
    have absent : chains[stem file]? = none := by
      rw [loadChainFiles_eq] at loading
      rw [addChainFiles_other loading]
      · exact Table.get_empty _
      · intro other _ same
        exact dot_not_mem_chainName other (same ▸ dot)
    have found := expected.symm.trans (kept (stem file))
    rw [absent] at found
    cases found
  · intro plain primary load state now loaded ok
    obtain ⟨chains, loading, kept⟩ := loadConfig_settings ok
    exact loadsEveryFile_of_plain plain loading kept

/-- Two versions of a chain in two files: only the second is monitored. -/
theorem chain_files_collide :
    let entries : List DirEntry := [{ name := "osmosis.v1.yml" }, { name := "osmosis.v2.yml" }]
    let loaded := loadConfig sortedRange {} entries labelled (.ok {}) 0
    (∃ config, loaded = .ok config ∧ (config.chains.toList.map fun entry =>
      (entry.1, entry.2.map (·.chain.chainId))) = [("osmosis", some "osmosis.v2.yml")]) ∧
    ∀ config, loaded = .ok config → ¬ LoadsEveryFile entries labelled ∅ config.chains := by
  intro entries loaded
  have chains : loaded.toOption.map (fun config => (config.chains.toList.map fun entry =>
      (entry.1, entry.2.map (·.chain.chainId)))) = some [("osmosis", some "osmosis.v2.yml")] := by
    decide +kernel
  have lost : loaded.toOption.map (fun config => config.chains["osmosis.v1"]?) = some none := by
    decide +kernel
  constructor
  · cases ok : loaded with
    | error failure => simp [ok, Except.toOption] at chains
    | ok config => exact ⟨config, rfl, by simpa [ok, Except.toOption] using chains⟩
  · intro config ok every
    have entry := every.files "osmosis.v1.yml" (by decide +kernel) _ rfl
    have absent : config.chains["osmosis.v1"]? = none := by
      simpa [ok, Except.toOption] using lost
    rw [show stem "osmosis.v1.yml" = "osmosis.v1" by decide +kernel, absent] at entry
    cases entry

end Seer.Runtime
