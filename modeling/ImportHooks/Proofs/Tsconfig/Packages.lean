import ImportHooks.Proofs.Disk.Walk
import ImportHooks.Proofs.Path.Ancestors
import ImportHooks.Proofs.Tsconfig.Once

namespace ImportHooks.Tsconfig
open Text Disk

def packagePlaces (entry : Text) (directory : Place) : List Place :=
  let inside := descend (packages.text :: directory)
  inside (Path.mk entry).names ::
    ((if jsonEnding.isSuffixOf entry then [] else [inside (Path.mk (entry ++ jsonEnding)).names]) ++
      [inside ((Path.mk entry).names ++ [packageConfig.text])])

-- The directories whose packages are tried for an entry of a config, in order.
def consulted (d : Disk) (config : Path) : List Place :=
  (directoryOf config).ancestors.map fun ancestor => descend (d.origin ancestor) ancestor.names

theorem firstFile_exact (files : Files) (paths : List Path) :
    firstFile files paths =
      (paths.find? files.isFile, (paths.take (paths.findIdx files.isFile + 1)).map Event.probed) := by
  induction paths with
  | nil => rfl
  | cons path rest ih =>
    rw [firstFile, List.find?_cons, List.findIdx_cons, ih]
    cases files.isFile path <;> rfl

theorem packages_relative : packages.isAbsolute = false := by decide

theorem packageConfig_relative : packageConfig.isAbsolute = false := by decide

theorem packages_names : packages.names = [packages.text] := by decide

theorem packageConfig_names : packageConfig.names = [packageConfig.text] := by decide

theorem relative_of_package {entry : Text} (package : isLocal entry = false) : (Path.mk entry).isAbsolute = false := by
  simp only [isLocal, Bool.or_eq_false_iff] at package
  exact package.2

theorem relative_extended {entry : Text} (relative : (Path.mk entry).isAbsolute = false) :
    (Path.mk (entry ++ jsonEnding)).isAbsolute = false := by
  by_cases empty : entry = []
  · rw [empty]
    decide
  · rw [Path.isAbsolute_append empty, relative]

theorem package_place (d : Disk) (ancestor : Path) {right : Path} (relative : right.isAbsolute = false) :
    descend (d.origin ((ancestor.join packages).join right)) ((ancestor.join packages).join right).names =
      descend (packages.text :: descend (d.origin ancestor) ancestor.names) right.names := by
  have origin : d.origin ((ancestor.join packages).join right) = d.origin ancestor := by
    unfold Disk.origin
    rw [Path.join_isAbsolute relative, Path.join_isAbsolute packages_relative]
  rw [origin, Path.names_join relative, Path.names_join packages_relative, packages_names, descend_append, descend_append]
  rfl

theorem candidate_places (d : Disk) (directory : Path) {entry : Text} (package : isLocal entry = false) :
    (candidates directory entry).map (fun candidate => descend (d.origin candidate) candidate.names) =
      (directory.ancestors.map fun ancestor => descend (d.origin ancestor) ancestor.names).flatMap (packagePlaces entry) := by
  have relative := relative_of_package package
  have extended := relative_extended relative
  rw [candidates, if_neg (by simp [package]), List.map_flatMap, List.flatMap_map]
  congr 1
  funext ancestor
  have config : descend (d.origin (((ancestor.join packages).join ⟨entry⟩).join packageConfig))
      (((ancestor.join packages).join ⟨entry⟩).join packageConfig).names =
        descend (packages.text :: descend (d.origin ancestor) ancestor.names) ((Path.mk entry).names ++ [packageConfig.text]) := by
    have origin : d.origin (((ancestor.join packages).join ⟨entry⟩).join packageConfig) =
        d.origin ((ancestor.join packages).join ⟨entry⟩) := by
      unfold Disk.origin
      rw [Path.join_isAbsolute packageConfig_relative]
    rw [origin, Path.names_join packageConfig_relative, packageConfig_names, descend_append, package_place d ancestor relative,
      descend_append]
  unfold spellings packagePlaces
  split
  · simp [config, package_place d ancestor relative]
  · simp [config, package_place d ancestor relative, Path.join_append_ending relative extended,
      package_place d ancestor extended]

theorem consulted_eq (d : Disk) {p : Path} (named : p.names ≠ []) :
    ∃ again, consulted d p =
        (p.names.dropLast.reverse.tails ++ again).map (fun names => descend (d.origin p) names.reverse) ∧
      (∀ names ∈ again, names = []) ∧ (p.isAbsolute = true → again = []) := by
  obtain ⟨q, cutOff⟩ := Option.isSome_iff_exists.mp (Path.parent?_isSome named)
  obtain ⟨rooted, fewer⟩ := Path.parent?_names cutOff
  obtain ⟨again, climbed, empty, none⟩ := Path.climb_names (Path.names_length_le q)
  refine ⟨again, ?_, empty, fun absolute => none (rooted.trans absolute)⟩
  have directory : directoryOf p = q := by simp [directoryOf, cutOff]
  rw [← fewer, ← climbed, List.map_map, consulted, directory, Path.ancestors]
  refine List.map_congr_left fun ancestor above => ?_
  have origin : d.origin ancestor = d.origin p := by
    unfold Disk.origin
    rw [Path.climb_isAbsolute above, rooted]
  rw [origin, Function.comp_apply, List.reverse_reverse]

theorem tails_descend_sublist (names : List Text) :
    (descend [] names.reverse).tails.Sublist (names.tails.map fun rest => descend [] rest.reverse) := by
  induction names with
  | nil => exact List.Sublist.refl _
  | cons name rest ih =>
    rw [List.reverse_cons, List.tails_cons, List.map_cons, List.reverse_cons, descend_append, descend_cons]
    -- a name that climbs leads above where the others lead, and that they come to
    split
    · have higher (place : Place) : place.tail.tails.Sublist place.tails := by
        cases place with
        | nil => exact List.Sublist.refl _
        | cons here behind => exact List.sublist_cons_self _ _
      exact ((higher _).trans ih).cons _
    · rw [descend, List.foldl_nil, List.tails_cons]
      exact ih.cons_cons _

theorem tails_descend_level {names : List Text} (level : ['.', '.'] ∉ names) (place : Place) :
    (names.tails.map fun rest => descend place rest.reverse) = names.tails.map fun rest => rest ++ place := by
  refine List.map_congr_left fun rest member => ?_
  have inside := (List.mem_tails _ _).mp member
  have levelToo : ['.', '.'] ∉ rest.reverse := fun climbs => level (inside.subset (List.mem_reverse.mp climbs))
  rw [descend_level levelToo, List.reverse_reverse]

theorem getLast?_tails (names : List Text) : names.tails.getLast? = some [] := by
  induction names with
  | nil => rfl
  | cons name rest ih =>
    rw [List.tails_cons, List.getLast?_cons, ih]
    rfl

section
variable (d : Disk) {p : Path} (named : p.names ≠ [])
include named

theorem consulted_begins : (consulted d p).head? = some (descend (d.origin p) p.names.dropLast) := by
  obtain ⟨again, climbed, -, -⟩ := consulted_eq d named
  rw [climbed]
  cases parted : p.names.dropLast.reverse with
  | nil => simp [List.reverse_eq_nil_iff.mp parted]
  | cons name rest =>
    have front : p.names.dropLast = (name :: rest).reverse := by rw [← parted, List.reverse_reverse]
    rw [front, List.tails_cons]
    rfl

theorem consulted_from_root (absolute : p.isAbsolute = true) :
    (descend (d.origin p) p.names.dropLast).tails.Sublist (consulted d p) := by
  obtain ⟨again, climbed, -, none⟩ := consulted_eq d named
  rw [climbed, none absolute, List.append_nil, Disk.origin, if_pos absolute]
  have sub := tails_descend_sublist p.names.dropLast.reverse
  rwa [List.reverse_reverse] at sub

theorem consulted_level (level : ['.', '.'] ∉ p.names) :
    descend (d.origin p) p.names.dropLast = p.names.dropLast.reverse ++ d.origin p ∧
      ∃ again, consulted d p = (p.names.dropLast.reverse.tails.map fun names => names ++ d.origin p) ++ again ∧
        (∀ directory ∈ again, directory = d.origin p) ∧ (p.isAbsolute = true → again = []) := by
  obtain ⟨again, climbed, empty, none⟩ := consulted_eq d named
  have front : ['.', '.'] ∉ p.names.dropLast := fun climbs => level (List.dropLast_subset _ climbs)
  refine ⟨descend_level front _, again.map fun names => descend (d.origin p) names.reverse, ?_, ?_, ?_⟩
  · rw [climbed, List.map_append, tails_descend_level (fun climbs => front (List.mem_reverse.mp climbs))]
  · intro directory member
    obtain ⟨names, there, rfl⟩ := List.mem_map.mp member
    rw [empty names there]
    rfl
  · intro absolute
    rw [none absolute, List.map_nil]

theorem consulted_straight (straight : p.Straight) : consulted d p = (descend (d.origin p) p.names.dropLast).tails := by
  obtain ⟨above, again, spelled, -, none⟩ := consulted_level d named straight.level
  rw [spelled, none straight.rooted, List.append_nil, above, Disk.origin, if_pos straight.rooted]
  simp

theorem consulted_relative (relative : p.isAbsolute = false) (level : ['.', '.'] ∉ p.names) :
    ∃ nearest again, consulted d p = nearest ++ again ∧ nearest <+: (descend (d.origin p) p.names.dropLast).tails ∧
      nearest.getLast? = some d.working ∧ ∀ directory ∈ again, directory = d.working := by
  obtain ⟨above, again, spelled, empty, -⟩ := consulted_level d named level
  have working : d.origin p = d.working := by simp [Disk.origin, relative]
  rw [working] at above spelled empty
  refine ⟨_, again, spelled, ?_, ?_, empty⟩
  · rw [working, above, List.tails_append]
    exact List.prefix_append _ _
  · rw [List.getLast?_map, getLast?_tails]
    rfl

end

-- A search looks for packages in the directory of a config first. From the root it
-- comes to all directories around the config, nearest first, and to no others unless
-- the path climbs; a relative path that does not climb ends at the working directory.
-- Within a directory, and over all of them, the first file in order is the base.
theorem packages_sought_by_path (d : Disk) (unlinked : d.Unlinked) (grounded : d.Grounded) (start p : Path)
    (reached : (Files.ofDisk d).Reached start p) (read : ((Files.ofDisk d).config? p).isSome = true) (entry : Text)
    (package : isLocal entry = false) :
    let sought := candidates (directoryOf p) entry
    let aim := fun candidate : Path => descend (d.origin candidate) candidate.names
    firstFile (.ofDisk d) sought = (sought.find? d.isFile, (sought.take (sought.findIdx d.isFile + 1)).map Event.probed) ∧
      sought.map aim = (consulted d p).flatMap (packagePlaces entry) ∧
      (∀ candidate ∈ sought, ∀ place, d.locate candidate = .ok place → place = aim candidate) ∧
      ∃ place, d.locate p = .ok place ∧ (consulted d p).head? = some place.tail ∧
        (p.isAbsolute = true → place.tail.tails.Sublist (consulted d p)) ∧
        (p.Straight → consulted d p = place.tail.tails) ∧
        (start.Straight → Level d → consulted d p = place.tail.tails) ∧
        (p.isAbsolute = false → ['.', '.'] ∉ p.names → ∃ nearest again, consulted d p = nearest ++ again ∧
          nearest <+: place.tail.tails ∧ nearest.getLast? = some d.working ∧ ∀ directory ∈ again, directory = d.working) := by
  intro sought aim
  obtain ⟨config, read⟩ := Option.isSome_iff_exists.mp read
  obtain ⟨named, place, located, tail⟩ := grounded.file_in_directory unlinked (config?_found read).1
  have straightly (straight : p.Straight) : consulted d p = place.tail.tails := tail ▸ consulted_straight d named straight
  refine ⟨firstFile_exact _ _, candidate_places d _ package, fun candidate _ place => unlinked.locate, place, located,
    tail ▸ consulted_begins d named, fun absolute => tail ▸ consulted_from_root d named absolute, straightly, ?_,
    fun relative level => tail ▸ consulted_relative d named relative level⟩
  intro straight level
  rcases Relation.reflTransGen_iff_eq_or_transGen.mp reached with rfl | led
  · exact straightly straight
  · exact straightly (straight_of_led unlinked level straight led)

def nested : Disk where
  entries := [(["a".toList], .directory), (["b".toList, "a".toList], .directory),
    (["tsconfig.json".toList, "b".toList, "a".toList], .file (utf8 "\x7b\"extends\":\"kit\"\x7d".toList)),
    (["node_modules".toList], .directory), (["kit.json".toList, "node_modules".toList], .file (utf8 "\x7b\x7d".toList))]
  working := ["a".toList]

theorem nested_package_is_found :
    let start : Path := ⟨"/a/b/tsconfig.json".toList⟩
    nested.Unlinked ∧ nested.Grounded ∧ start.Straight ∧ Level nested ∧ isLocal "kit".toList = false ∧
      consulted nested start = [["b".toList, "a".toList], ["a".toList], []] ∧
      (Files.ofDisk nested).base? start "kit".toList = some ⟨"/node_modules/kit.json".toList⟩ := by
  intro start
  have unlinked : nested.Unlinked := unlinked_of_kinds (by decide)
  have grounded : nested.Grounded := by
    unfold Disk.Grounded
    decide +kernel
  have straight : start.Straight := ⟨by decide, by decide⟩
  have level : Level nested := by
    unfold Level
    decide +kernel
  have package : isLocal "kit".toList = false := by decide
  obtain ⟨first, -, -, place, located, -, -, -, around, -⟩ :=
    packages_sought_by_path nested unlinked grounded start start .refl (by decide +kernel) "kit".toList package
  have there : nested.locate start = .ok ["tsconfig.json".toList, "b".toList, "a".toList] := by decide +kernel
  cases located.symm.trans there
  refine ⟨unlinked, grounded, straight, level, package, around straight level, ?_⟩
  rw [Files.base?, first]
  decide +kernel

def scattered : Disk where
  entries := [(["app".toList], .directory), (["lib".toList], .directory),
    (["tsconfig.json".toList, "app".toList], .file (utf8 "\x7b\"extends\":\"../lib/base.json\"\x7d".toList)),
    (["base.json".toList, "lib".toList], .file (utf8 "\x7b\"extends\":\"kit\"\x7d".toList)),
    (["node_modules".toList, "app".toList], .directory),
    (["kit.json".toList, "node_modules".toList, "app".toList],
      .file (utf8 "\x7b\"compilerOptions\":\x7b\"target\":\"es5\"\x7d\x7d".toList)),
    (["node_modules".toList], .directory),
    (["own.json".toList, "node_modules".toList],
      .file (utf8 "\x7b\"compilerOptions\":\x7b\"target\":\"es5\"\x7d\x7d".toList)),
    (["own.json".toList, "lib".toList], .file (utf8 "\x7b\"extends\":\"own\"\x7d".toList))]
  working := ["lib".toList]

-- Behind a path that climbs the directory it climbed from is tried, which is not
-- around the config; from a relative path nothing above the working directory is.
theorem packages_sought_elsewhere :
    let start : Path := ⟨"/app/tsconfig.json".toList⟩
    let climbing : Path := ⟨"/app/../lib/base.json".toList⟩
    let bare : Path := ⟨"own.json".toList⟩
    scattered.Unlinked ∧ scattered.Grounded ∧ (Files.ofDisk scattered).Reached start climbing ∧
      scattered.locate climbing = .ok ["base.json".toList, "lib".toList] ∧
      consulted scattered climbing = [["lib".toList], [], ["app".toList], []] ∧
      (∀ directory ∈ ["lib".toList].tails, ∀ place ∈ packagePlaces "kit".toList directory, scattered.entry? place = none) ∧
      (readTarget (.ofDisk scattered) start).1 = some .es5 ∧
      scattered.locate bare = .ok ["own.json".toList, "lib".toList] ∧ consulted scattered bare = [["lib".toList]] ∧
      scattered.isFile ⟨"/node_modules/own.json".toList⟩ = true ∧ (readTarget (.ofDisk scattered) bare).1 = none := by
  intro start climbing bare
  have grounded : scattered.Grounded := by
    unfold Disk.Grounded
    decide +kernel
  have led : (Files.ofDisk scattered).Leads start climbing :=
    ⟨⟨some (.one "../lib/base.json".toList), none⟩, by decide +kernel, by decide +kernel⟩
  refine ⟨unlinked_of_kinds (by decide), grounded, .single led, ?_⟩
  decide +kernel

end ImportHooks.Tsconfig
