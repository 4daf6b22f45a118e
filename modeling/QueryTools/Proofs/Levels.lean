import QueryTools.Proofs.SchemaFiles
import Mathlib.Logic.Function.Basic

/-!
# One level for all loggers

Any number of services give out loggers, and one of them also attaches handlers and sets levels.  A level
that is set reaches the package's logger and those loggers that this one service gave out by then; all others
take the level of the nearest name above them.  Still one level holds everywhere below the package's name:
a logger that has a level of its own is known to the service, so that every later level reaches it as well.

Main statements:

* `Loggers.effective_of_near` -- the level of a logger, where all names up to the package's have one level
  or none;
* `Logging.governs_meet` -- one call keeps the level that was applied last in force;
* `Loggers.mem_lineage` -- where the package's logger stands above one;
* `LogService.exists_configured?` -- a call applies its level, unless no bytes spell the path of its log file;
* `Logging.one_level_governs` -- all of this, for any number of calls.
-/

namespace QueryTools

/-! ## Paths that no bytes spell -/

/-- What stands in a piece of a split text stood in the text. -/
theorem Text.mem_of_mem_splitChars {c x : Char} {piece cs : List Char}
    (member : piece ∈ splitChars c cs) (inside : x ∈ piece) : x ∈ cs := by
  induction cs generalizing piece with
  | nil =>
      cases List.mem_singleton.1 member
      cases inside
  | cons y rest ih =>
      unfold splitChars at member
      by_cases cut : y = c
      · rw [if_pos cut] at member
        rcases List.mem_cons.1 member with rfl | later
        · cases inside
        · exact List.mem_cons_of_mem y (ih later inside)
      · rw [if_neg cut] at member
        cases pieces : splitChars c rest with
        | nil =>
            rw [pieces] at member
            cases List.mem_singleton.1 member
            exact List.mem_cons.2 (.inl (List.mem_singleton.1 inside))
        | cons first more =>
            rw [pieces] at member
            rcases List.mem_cons.1 member with rfl | later
            · rcases List.mem_cons.1 inside with rfl | deeper
              · exact List.mem_cons_self
              · exact List.mem_cons_of_mem y (ih (pieces ▸ List.mem_cons_self) deeper)
            · exact List.mem_cons_of_mem y (ih (pieces ▸ List.mem_cons_of_mem first later) inside)

/-- What stands in joined texts stands in one of them, or between them. -/
theorem Text.mem_of_mem_intercalate {between : String} {parts : List String} {x : Char}
    (inside : x ∈ (between.intercalate parts).toList) :
    x ∈ between.toList ∨ ∃ part ∈ parts, x ∈ part.toList := by
  induction parts with
  | nil => cases inside
  | cons first rest ih =>
      cases rest with
      | nil => exact .inr ⟨first, List.mem_cons_self, inside⟩
      | cons second more =>
          rw [String.intercalate_cons_cons, String.toList_append, String.toList_append, List.mem_append,
            List.mem_append] at inside
          rcases inside with (front | middle) | later
          · exact .inr ⟨first, List.mem_cons_self, front⟩
          · exact .inl middle
          · rcases ih later with middle | ⟨part, member, deeper⟩
            · exact .inl middle
            · exact .inr ⟨part, List.mem_cons_of_mem first member, deeper⟩

namespace Files

/-- What stands in a part of a path stands in the path. -/
theorem mem_of_mem_parts {path part : String} (member : part ∈ parts path) {x : Char}
    (inside : x ∈ part.toList) : x ∈ path.toList := by
  obtain ⟨piece, cut, rfl⟩ := List.mem_map.1 (List.mem_filter.1 member).1
  rw [String.toList_ofList] at inside
  exact Text.mem_of_mem_splitChars cut inside

/-- What a list ends with was there at first or came in by one of the steps. -/
theorem mem_of_mem_foldl {step : List String → String → List String} {part : String}
    (each : ∀ acc p, part ∈ step acc p → part ∈ acc ∨ part = p) {acc ps : List String}
    (member : part ∈ ps.foldl step acc) : part ∈ acc ∨ part ∈ ps := by
  induction ps generalizing acc with
  | nil => exact .inl member
  | cons p ps ih =>
      rcases ih member with held | later
      · rcases each acc p held with old | rfl
        · exact .inl old
        · exact .inr List.mem_cons_self
      · exact .inr (List.mem_cons_of_mem p later)

/-- Resolving a path makes no parts of its own. -/
theorem mem_of_mem_resolve {part : String} {ps : List String} (member : part ∈ resolve ps) : part ∈ ps := by
  unfold resolve at member
  rw [List.mem_reverse] at member
  refine (mem_of_mem_foldl ?_ member).resolve_left List.not_mem_nil
  intro acc p held
  split at held
  · split at held
    · rcases List.mem_cons.1 held with rfl | old
      · exact .inr rfl
      · exact .inl old
    · exact .inl (List.mem_cons_of_mem _ held)
  · rcases List.mem_cons.1 held with rfl | old
    · exact .inr rfl
    · exact .inl old

/-- The name of a file holds a character only where the path does. -/
theorem mem_of_mem_key {path : String} {x : Char} (other : x ≠ '/') (inside : x ∈ (key path).toList) :
    x ∈ path.toList := by
  unfold key at inside
  rw [String.toList_append, List.mem_append] at inside
  rcases inside with slash | rest
  · cases absolute : isAbsolute path with
    | true =>
        rw [absolute] at slash
        exact absurd (List.mem_singleton.1 slash) other
    | false =>
        rw [absolute] at slash
        cases slash
  · rcases Text.mem_of_mem_intercalate rest with slash | ⟨part, member, deeper⟩
    · exact absurd (List.mem_singleton.1 slash) other
    · exact mem_of_mem_parts (mem_of_mem_resolve member) deeper

/-- Of a path below a directory each character but the slash is of the directory or of the path. -/
theorem mem_of_mem_below {directory path : String} {x : Char} (other : x ≠ '/')
    (inside : x ∈ (below directory path).toList) : x ∈ directory.toList ∨ x ∈ path.toList := by
  unfold below at inside
  split at inside
  · exact .inr inside
  · split at inside
    · rw [String.toList_append, List.mem_append] at inside
      exact inside
    · rw [String.toList_append, String.toList_append, List.mem_append, List.mem_append] at inside
      rcases inside with (front | slash) | later
      · exact .inl front
      · exact absurd (List.mem_singleton.1 slash) other
      · exact .inr later

/-- No path that the system is told of holds the character: it ends paths, or no bytes spell it. -/
def IsUnspelled (c : Char) : Prop := isStray c = true ∨ c = '\x00'

/-- A character that no bytes spell is no slash. -/
theorem IsUnspelled.ne_slash {c : Char} (unspelled : IsUnspelled c) : c ≠ '/' := by
  rintro rfl
  rcases unspelled with stray | ends
  · exact absurd stray (by decide)
  · exact absurd ends (by decide)

/-- A path has a fault by itself just where it holds a character that the system is told of in none. -/
theorem spellingFault?_ne_none_iff {path : String} :
    spellingFault? path ≠ none ↔ ∃ c ∈ path.toList, IsUnspelled c := by
  rw [Ne, spellingFault?_eq_none_iff, not_and_or]
  constructor
  · rintro (stray | ends)
    · push Not at stray
      obtain ⟨c, there, is⟩ := stray
      exact ⟨c, there, .inl (by simpa using is)⟩
    · exact ⟨'\x00', not_not.1 ends, .inr rfl⟩
  · rintro ⟨c, there, stray | rfl⟩
    · refine .inl fun spelled => ?_
      rw [spelled c there] at stray
      cases stray
    · exact .inr (not_not.2 there)

/-- A directory whose making fails for its spelling has a part that is not spelled. -/
theorem exists_of_makeFrom {files : Files} {here : Place} {shown : String} {ps : List String}
    {f : DirectoryFault} (failed : files.makeFrom here shown ps = .error f)
    (spelling : f.fault.isOfSpelling = true) : ∃ part ∈ ps, spellingFault? part ≠ none := by
  fun_induction makeFrom files here shown ps with
  | case1 => cases failed
  | case2 files here shown rest ih =>
      obtain ⟨part, member, inside⟩ := ih failed
      exact ⟨part, List.mem_cons_of_mem _ member, inside⟩
  | case3 files here shown name rest up fault misspelled =>
      exact ⟨name, List.mem_cons_self, by rw [misspelled]; nofun⟩
  | case4 =>
      cases failed
      cases spelling
  | case5 =>
      cases failed
      cases spelling
  | case6 files here shown name up there whole short taken next rest =>
      refine ⟨next, List.mem_cons_of_mem _ List.mem_cons_self, fun spelled => ?_⟩
      cases failed
      rw [spelled] at spelling
      cases spelling
  | case7 files here shown name rest up there whole short free ih =>
      obtain ⟨part, member, inside⟩ := ih failed
      exact ⟨part, List.mem_cons_of_mem _ member, inside⟩

/-- Making a directory meets a fault of its path by itself only where the path has one. -/
theorem spellingFault?_of_makeDirectory {files : Files} {path : String} {f : DirectoryFault}
    (failed : files.makeDirectory path = .error f) (spelling : f.fault.isOfSpelling = true) :
    spellingFault? path ≠ none := by
  obtain ⟨part, member, misspelled⟩ := exists_of_makeFrom failed spelling
  obtain ⟨c, there, unspelled⟩ := spellingFault?_ne_none_iff.1 misspelled
  exact spellingFault?_ne_none_iff.2 ⟨c, mem_of_mem_parts member there, unspelled⟩

/-- A path that is not found for its spelling is not spelled. -/
theorem spellingFault?_of_lookup {files : Files} {path : String} {fault : FileFault}
    (failed : files.lookup path = .error fault) (spelling : fault.isOfSpelling = true) :
    spellingFault? path ≠ none := by
  intro spelled
  unfold lookup at failed
  rw [spelled] at failed
  dsimp only at failed
  split at failed
  · cases failed
    cases spelling
  · rw [isOfSpelling_of_follow failed] at spelling
    cases spelling

/-- Opening a file meets a fault of its path by itself only where the path has one. -/
theorem spellingFault?_of_openFile {files : Files} {path : String} {fault : FileFault}
    (failed : files.openFile path = .error fault) (spelling : fault.isOfSpelling = true) :
    spellingFault? path ≠ none := by
  unfold openFile at failed
  dsimp only at failed
  split at failed
  · cases failed
    cases spelling
  · cases failed
  · split at failed
    · cases failed
    · cases failed
      cases spelling
    · rename_i led
      cases failed
      rw [isOfSpelling_of_follow led] at spelling
      cases spelling
  · rename_i led
    cases failed
    have misspelled := spellingFault?_of_lookup led spelling
    obtain ⟨c, there, unspelled⟩ := spellingFault?_ne_none_iff.1 misspelled
    exact spellingFault?_ne_none_iff.2 ⟨c, mem_of_mem_key unspelled.ne_slash there, unspelled⟩

end Files

namespace Loggers

/-! ## Names below the package's -/

/-- A name is the package's or stands below it. -/
def IsPackaged (name : String) : Prop := name = packageLogger ∨ ∃ part, name = moduleLogger part

variable {name : String}

/-- A packaged name is the name of its logger. -/
theorem IsPackaged.key_eq (packaged : IsPackaged name) : key name = name := by
  have named : name ≠ "" := by
    rintro rfl
    rcases packaged with same | ⟨part, same⟩
    · exact absurd same (by decide)
    · have lengths := congrArg (fun s => s.toList.length) same
      simp [moduleLogger, packageLogger] at lengths
  exact if_neg named

/-- A name backwards that ends with the package's is packaged. -/
theorem isPackaged_reverse (below : List Char) :
    IsPackaged (String.ofList (below ++ '.' :: packageLogger.toList.reverse).reverse) := by
  refine .inr ⟨String.ofList below.reverse, ?_⟩
  rw [← String.toList_inj]
  simp [moduleLogger]

theorem reverse_moduleLogger (part : String) :
    (moduleLogger part).toList.reverse = part.toList.reverse ++ '.' :: packageLogger.toList.reverse := by
  simp [moduleLogger]

theorem package_reverse : packageLogger.toList.reverse = 'l' :: "mcp_graphq".toList.reverse := by
  decide +kernel

/-- The package's logger has none above it but the root. -/
theorem namesAbove_package (names : List String) : namesAbove names packageLogger.toList.reverse = [] := by
  rw [package_reverse]
  rfl

/-- All of some names are packaged, and the package's is among them, unless what stands behind its dot begins
with another one.  What stands there is given backwards. -/
structure Reaches (below : List Char) (above : List String) : Prop where
  packaged : ∀ n ∈ above, IsPackaged n
  package : below.getLast? ≠ some '.' → packageLogger ∈ above

/-- Names that reach the package's do so from a longer name. -/
theorem Reaches.further {below : List Char} {above : List String} (reaches : Reaches below above) (c : Char) :
    Reaches (c :: below) above where
  packaged := reaches.packaged
  package single := reaches.package fun last => single (by simp [List.getLast?_cons, last])

/-- Names that reach the package's do so with a packaged one before them. -/
theorem Reaches.past {below : List Char} {above : List String} (reaches : Reaches below above) {name : String}
    (packaged : IsPackaged name) : Reaches below (name :: above) where
  packaged := List.forall_mem_cons.2 ⟨packaged, reaches.packaged⟩
  package single := List.mem_cons_of_mem _ (reaches.package single)

/-- The names above one that is packaged are packaged, as far as there are any; and the package's is among them
where no dot follows the one behind it. -/
theorem reaches_namesAbove (names : List String) {below cs : List Char}
    (split : cs = below ++ '.' :: packageLogger.toList.reverse) : Reaches below (namesAbove names cs) := by
  -- The induction is on the name backwards: each dot that counts cuts off what stands behind it.
  fun_induction namesAbove names cs generalizing below with
  | case1 => cases below <;> cases split
  | case2 rest above known =>
      rename_i ih
      cases below with
      | nil =>
          rw [package_reverse] at split
          cases split
      | cons x below =>
          obtain ⟨rfl, inner⟩ := List.cons.inj split
          have here : IsPackaged above := by
            show IsPackaged (String.ofList ('.' :: rest).reverse)
            rw [inner]
            exact isPackaged_reverse below
          exact ((ih inner).further '.').past here
  | case3 rest above unknown =>
      rename_i ih
      cases below with
      | nil =>
          rw [package_reverse] at split
          cases split
      | cons x below =>
          obtain ⟨rfl, inner⟩ := List.cons.inj split
          have here : IsPackaged above := by
            show IsPackaged (String.ofList ('.' :: rest).reverse)
            rw [inner]
            exact isPackaged_reverse below
          cases below with
          | nil =>
              rw [(List.cons.inj inner).2, namesAbove_package]
              exact ⟨by rwa [List.forall_mem_singleton], fun single => absurd rfl single⟩
          | cons y below =>
              obtain ⟨rfl, deeper⟩ := List.cons.inj inner
              exact (((ih deeper).further '.').further '.').past here
  | case4 =>
      cases below with
      | nil =>
          rw [package_reverse] at split
          cases split
      | cons x below => cases below <;> cases split
  | case5 rest single whole ih =>
      cases below with
      | nil =>
          rw [(List.cons.inj split).2, List.reverse_reverse, String.ofList_toList, namesAbove_package]
          exact ⟨by simp [IsPackaged], fun _ => List.mem_cons_self⟩
      | cons x below =>
          obtain ⟨rfl, inner⟩ := List.cons.inj split
          have here : IsPackaged (String.ofList rest.reverse) := by
            rw [inner]
            exact isPackaged_reverse below
          exact ((ih inner).further '.').past here
  | case6 c rest undotted single other ih =>
      cases below with
      | nil => exact absurd (List.cons.inj split).1 other
      | cons x below =>
          obtain ⟨rfl, inner⟩ := List.cons.inj split
          exact (ih inner).further c

/-- Where the package's logger stands above one that is packaged, or is that one: the names up to it are all
packaged, and the root stands above them. -/
theorem IsPackaged.exists_near (packaged : IsPackaged name) {ls : Loggers}
    (stands : packageLogger ∈ ls.lineage name) :
    ∃ near, ls.lineage name = near ++ [rootLogger] ∧ packageLogger ∈ near ∧ ∀ n ∈ near, IsPackaged n := by
  refine ⟨key name :: namesAbove ls.names (key name).toList.reverse, rfl, ?_, ?_⟩
  · rcases List.mem_append.1 stands with near | root
    · exact near
    · exact absurd (List.mem_singleton.1 root) (by decide)
  · rw [List.forall_mem_cons, packaged.key_eq]
    refine ⟨packaged, ?_⟩
    rcases packaged with rfl | ⟨part, rfl⟩
    · rw [namesAbove_package]
      nofun
    · exact (reaches_namesAbove ls.names (reverse_moduleLogger part)).packaged

/-- The package's logger is the first of its own lineage. -/
theorem mem_lineage_package (ls : Loggers) : packageLogger ∈ ls.lineage packageLogger := List.mem_cons_self

/-- The package's logger stands above each whose name begins with its own and a dot, unless another dot
follows. -/
theorem mem_lineage (ls : Loggers) {part : String} (single : part.toList.head? ≠ some '.') :
    packageLogger ∈ ls.lineage (moduleLogger part) := by
  unfold lineage
  rw [IsPackaged.key_eq (.inr ⟨part, rfl⟩)]
  refine List.mem_append_left _ (List.mem_cons_of_mem _ ?_)
  refine (reaches_namesAbove ls.names (reverse_moduleLogger part)).package ?_
  rw [List.getLast?_reverse]
  exact single

/-! ## Levels -/

variable {ls : Loggers}

/-- **The level of a logger.**  Where the package's logger has a level, and every name below it has the same
or none, that level is in force wherever the package's logger stands above. -/
theorem effective_of_near {severity : Nat} (positive : severity ≠ 0)
    (one : ∀ n, IsPackaged n → ls.own n = 0 ∨ ls.own n = severity)
    (set : ls.own packageLogger = severity) (packaged : IsPackaged name)
    (stands : packageLogger ∈ ls.lineage name) : ls.effective name = severity := by
  obtain ⟨near, chain, there, below⟩ := packaged.exists_near stands
  unfold effective
  rw [chain, List.find?_append]
  cases found : near.find? fun n => ls.own n != 0 with
  | none =>
      have never := List.find?_eq_none.1 found packageLogger there
      simp [set, positive] at never
  | some n =>
      have has : ls.own n ≠ 0 := by simpa using List.find?_some found
      rcases one n (below n (List.mem_of_find?_eq_some found)) with no | same
      · exact absurd no has
      · exact same

/-- What level a logger has turns on the levels alone. -/
theorem own_congr {ls' : Loggers} (same : ls'.levels = ls.levels) (name : String) :
    ls'.own name = ls.own name := by
  unfold own
  rw [same]

theorem levels_log (ls : Loggers) (r : LogRecord) : (ls.log r).levels = ls.levels := by
  unfold log
  split <;> rfl

theorem handlers_log (ls : Loggers) (r : LogRecord) : (ls.log r).handlers = ls.handlers := by
  unfold log
  split <;> rfl

theorem levels_attach (ls : Loggers) (h : LogHandler) : (ls.attach h).levels = ls.levels := by
  unfold attach
  split <;> rfl

/-- A handler that was attached is there. -/
theorem mem_attach (ls : Loggers) (h : LogHandler) : h ∈ (ls.attach h).handlers := by
  unfold attach
  by_cases held : ls.handlers.contains h = true
  · rw [if_pos held]
    exact List.contains_iff_mem.1 held
  · rw [if_neg held]
    exact List.mem_append_right _ List.mem_cons_self

/-- Attaching a handler takes none away. -/
theorem subset_attach (ls : Loggers) (h : LogHandler) : ls.handlers ⊆ (ls.attach h).handlers := by
  intro other member
  unfold attach
  split
  · exact member
  · exact List.mem_append_left _ member

/-- A handler is attached once. -/
theorem nodup_attach (single : ls.handlers.Nodup) (h : LogHandler) : (ls.attach h).handlers.Nodup := by
  unfold attach
  by_cases held : ls.handlers.contains h = true
  · rw [if_pos held]
    exact single
  · rw [if_neg held]
    refine List.nodup_append.2 ⟨single, List.nodup_singleton h, ?_⟩
    intro other member new isNew same
    rw [List.mem_singleton.1 isNew] at same
    exact held (List.contains_iff_mem.2 (same ▸ member))

/-- Opening a log file changes neither levels nor handlers. -/
theorem openFile_eq_ok {s : Settings} {files : Files} {ls' : Loggers}
    (opened : ls.openFile s files = .ok ls') : ls'.levels = ls.levels ∧ ls'.handlers = ls.handlers := by
  unfold openFile at opened
  split at opened
  · cases opened
    exact ⟨rfl, rfl⟩
  · cases opened
  · obtain ⟨_, -, opened⟩ := Outcome.bind_eq_ok.1 opened
    obtain ⟨_, -, opened⟩ := Outcome.bind_eq_ok.1 opened
    cases opened
    exact ⟨rfl, rfl⟩

/-- The loggers with the console among the handlers, before a log file is. -/
def ready (ls : Loggers) : Loggers := (ls.add packageLogger).attach .console

/-- No level is set by then. -/
theorem levels_ready (ls : Loggers) : ls.ready.levels = ls.levels := levels_attach _ .console

/-- The console is a handler then, none was taken away, and none is attached twice. -/
theorem handlers_ready (ls : Loggers) :
    .console ∈ ls.ready.handlers ∧ ls.handlers ⊆ ls.ready.handlers ∧
      (ls.handlers.Nodup → ls.ready.handlers.Nodup) := by
  refine ⟨mem_attach _ .console, subset_attach (ls.add packageLogger) .console, fun distinct => ?_⟩
  have before : (ls.add packageLogger).handlers.Nodup := distinct
  exact nodup_attach before .console

/-- All that attaching a log file can do: something is said, after a file was opened or not, or a fault that
is none of the system's stops it. -/
theorem cases_attachFile (ls : Loggers) (settings : Option Settings) (files : Files) :
    (∃ level text, ls.attachFile settings files = (ls.say level text, none)) ∨
      (∃ s opened level text, ls.openFile s files = .ok opened ∧
        ls.attachFile settings files = ((opened.attach .file).say level text, none)) ∨
      ∃ s fault, settings = some s ∧ s.logFile? ≠ none ∧ ls.openFile s files = .error fault ∧
        fault.isOfSystem = false ∧ ls.attachFile settings files = (ls, some fault) := by
  cases settings with
  | none => exact .inl ⟨_, _, rfl⟩
  | some s =>
      unfold attachFile
      dsimp only
      cases asked : s.logFile? with
      | none => exact .inl ⟨_, _, rfl⟩
      | some place =>
          dsimp only
          cases opened : ls.openFile s files with
          | ok ls' => exact .inr (.inl ⟨s, ls', _, _, opened, rfl⟩)
          | error fault =>
              have asks : s.logFile? ≠ none := by
                rw [asked]
                nofun
              cases system : fault.isOfSystem with
              | true => exact .inl ⟨_, _, if_pos system⟩
              | false =>
                  have stops : ¬ fault.isOfSystem = true := by simp [system]
                  exact .inr (.inr ⟨s, fault, rfl, asks, opened, system, if_neg stops⟩)

/-- Attaching the file sets no level, whether the file can be opened or not. -/
theorem levels_attachFile (ls : Loggers) (settings : Option Settings) (files : Files) :
    (ls.attachFile settings files).1.levels = ls.levels := by
  rcases ls.cases_attachFile settings files with ⟨level, text, made⟩ |
    ⟨s, opened, level, text, opens, made⟩ | ⟨s, fault, -, -, -, -, made⟩
  · rw [made]
    exact ls.levels_log _
  · rw [made]
    calc ((opened.attach .file).say level text).levels
        = (opened.attach .file).levels := levels_log _ _
      _ = opened.levels := opened.levels_attach .file
      _ = ls.levels := (openFile_eq_ok opens).1
  · rw [made]

/-- Attaching a log file keeps the handlers, and attaches none twice. -/
theorem handlers_attachFile (ls : Loggers) (settings : Option Settings) (files : Files) :
    ls.handlers ⊆ (ls.attachFile settings files).1.handlers ∧
      (ls.handlers.Nodup → (ls.attachFile settings files).1.handlers.Nodup) := by
  rcases ls.cases_attachFile settings files with ⟨level, text, made⟩ |
    ⟨s, opened, level, text, opens, made⟩ | ⟨s, fault, -, -, -, -, made⟩
  · have same : (ls.attachFile settings files).1.handlers = ls.handlers := by
      rw [made]
      exact ls.handlers_log _
    rw [same]
    exact ⟨List.Subset.refl _, id⟩
  · have same : (ls.attachFile settings files).1.handlers = (opened.attach .file).handlers := by
      rw [made]
      exact handlers_log _ _
    rw [same, ← (openFile_eq_ok opens).2]
    exact ⟨opened.subset_attach .file, fun single => nodup_attach single .file⟩
  · rw [made]
    exact ⟨List.Subset.refl _, id⟩

/-- The path of the log file that settings ask for has a fault by itself: no bytes spell it, or it ends
early. -/
def Misspelled (s : Settings) : Prop :=
  ∃ folder file, s.logFile? = some (folder, file) ∧
    (Files.spellingFault? folder ≠ none ∨ Files.spellingFault? file ≠ none)

/-- A path that stops the program is one that is not spelled. -/
theorem LogFileFault.isOfSystem_unusable {path : String} {fault : FileFault}
    (stops : (LogFileFault.unusable path fault).isOfSystem = false) : fault.isOfSpelling = true := by
  cases fault <;> first | rfl | cases stops

/-- What stops attaching a log file is a path that has a fault by itself. -/
theorem misspelled_of_openFile {s : Settings} {files : Files} {fault : LogFileFault}
    (asked : s.logFile? ≠ none) (failed : ls.openFile s files = .error fault)
    (stops : fault.isOfSystem = false) : Misspelled s := by
  obtain ⟨⟨folder, file⟩, place⟩ := Option.ne_none_iff_exists'.1 asked
  refine ⟨folder, file, place, ?_⟩
  unfold openFile at failed
  rw [place] at failed
  cases held : ls.file with
  | some path =>
      rw [held] at failed
      cases failed
  | none =>
      rw [held] at failed
      rcases Outcome.bind_eq_error.1 failed with unmade | ⟨made, -, failed⟩
      · obtain ⟨f, refused, rfl⟩ := Outcome.mapError_eq_error.1 unmade
        exact .inl (Files.spellingFault?_of_makeDirectory refused (LogFileFault.isOfSystem_unusable stops))
      · rcases Outcome.bind_eq_error.1 failed with unopened | ⟨_, -, never⟩
        · obtain ⟨met, refused, rfl⟩ := Outcome.mapError_eq_error.1 unopened
          have misspelled := Files.spellingFault?_of_openFile refused (LogFileFault.isOfSystem_unusable stops)
          obtain ⟨c, there, unspelled⟩ := Files.spellingFault?_ne_none_iff.1 misspelled
          rw [Files.spellingFault?_ne_none_iff, Files.spellingFault?_ne_none_iff]
          exact (Files.mem_of_mem_below unspelled.ne_slash there).imp (fun inside => ⟨c, inside, unspelled⟩)
            fun inside => ⟨c, inside, unspelled⟩
        · cases never

end Loggers

/-! ## One service -/

namespace LogService

open Loggers

variable {v : LogService} {ls : Loggers} {level? : Option LogLevel}

/-- The level that was applied last is in force: the package's logger has it, and so has every logger below
with a level of its own.  The service knows all of these. -/
structure Governs (v : LogService) (ls : Loggers) (level? : Option LogLevel) : Prop where
  package : ∀ level, level? = some level → ls.own packageLogger = level.severity
  known : ∀ name, IsPackaged name → ls.own name ≠ 0 → name ∈ packageLogger :: v.obtained
  one : ∀ name, IsPackaged name → ls.own name ≠ 0 →
    ∃ level, level? = some level ∧ ls.own name = level.severity

/-- Whether a level governs turns on the levels of the loggers alone. -/
theorem Governs.congr {ls' : Loggers} (governs : v.Governs ls level?) (same : ls'.levels = ls.levels) :
    v.Governs ls' level? := by
  constructor
  · intro level applied
    rw [own_congr same]
    exact governs.package level applied
  · intro name packaged has
    rw [own_congr same] at has
    exact governs.known name packaged has
  · intro name packaged has
    rw [own_congr same] at has ⊢
    exact governs.one name packaged has

/-- A service that gives out a logger has all that it had. -/
theorem subset_obtain (v : LogService) (name : String) : v.obtained ⊆ (v.obtain name).obtained := by
  intro other member
  unfold obtain
  dsimp only
  split
  · exact member
  · exact List.mem_append_left _ member

/-- Giving out a logger leaves the level that governs. -/
theorem Governs.obtain (governs : v.Governs ls level?) (name : String) :
    (v.obtain name).Governs ls level? := by
  refine ⟨governs.package, fun other packaged has => ?_, governs.one⟩
  rcases List.mem_cons.1 (governs.known other packaged has) with rfl | member
  · exact List.mem_cons_self
  · exact List.mem_cons_of_mem _ (v.subset_obtain name member)

/-- A level that is set governs from then on. -/
theorem Governs.setLevel (governs : v.Governs ls level?) (level : LogLevel) :
    (v.setLevel level ls).1.Governs (v.setLevel level ls).2 (some level) := by
  have reached {name : String} (packaged : IsPackaged name) (member : name ∈ packageLogger :: v.obtained) :
      (v.setLevel level ls).2.own name = level.severity :=
    own_setLevel v level ls (packaged.key_eq.symm ▸ member)
  have unreached {name : String} (packaged : IsPackaged name) (other : name ∉ packageLogger :: v.obtained) :
      (v.setLevel level ls).2.own name = ls.own name :=
    own_setLevel_of_not_mem v level ls (packaged.key_eq.symm ▸ other)
  have known (name : String) (packaged : IsPackaged name) (has : (v.setLevel level ls).2.own name ≠ 0) :
      name ∈ packageLogger :: v.obtained := by
    by_contra other
    rw [unreached packaged other] at has
    exact other (governs.known name packaged has)
  constructor
  · rintro _ ⟨⟩
    exact reached (.inl rfl) List.mem_cons_self
  · exact known
  · intro name packaged has
    exact ⟨level, rfl, reached packaged (known name packaged has)⟩

/-- All that setting up handlers and level can do. -/
theorem cases_configure (v : LogService) (settings : Option Settings) (files : Files) (ls : Loggers) :
    (∃ fault, (ls.ready.attachFile settings files).2 = some fault ∧
      v.configure settings files ls =
        (v.obtain packageLogger, (ls.ready.attachFile settings files).1, some fault)) ∨
    ∃ set : LogService × Loggers,
      set = (v.obtain packageLogger).setLevel ((settings.map Settings.logLevel).getD v.level)
        (ls.ready.attachFile settings files).1 ∧
      v.configure settings files ls =
        (set.1, set.2.say .debug "Logging service initialized", none) := by
  have level : (v.obtain packageLogger).level = v.level := by
    unfold obtain
    dsimp only
    split <;> rfl
  unfold configure Loggers.ready
  obtain ⟨attached, fault⟩ := ((ls.add packageLogger).attach .console).attachFile settings files
  cases fault with
  | some fault => exact .inl ⟨fault, rfl, rfl⟩
  | none => exact .inr ⟨_, rfl, by dsimp only; rw [level]⟩

/-- What setting up handlers and level applies. -/
def configured? (v : LogService) (settings : Option Settings) (files : Files) (ls : Loggers) :
    Option LogLevel :=
  match (v.configure settings files ls).2.2 with
  | some _ => none
  | none => some ((settings.map Settings.logLevel).getD v.level)

/-- A service that is configured governs with the level that it applied, if it did, else with the one before. -/
theorem Governs.configure (governs : v.Governs ls level?) (settings : Option Settings) (files : Files) :
    (v.configure settings files ls).1.Governs (v.configure settings files ls).2.1
      ((v.configured? settings files ls).or level?) := by
  have kept : (v.obtain packageLogger).Governs (ls.ready.attachFile settings files).1 level? :=
    (governs.obtain packageLogger).congr ((levels_attachFile _ settings files).trans ls.levels_ready)
  rcases v.cases_configure settings files ls with ⟨fault, -, made⟩ | ⟨_, rfl, made⟩
  · unfold configured?
    rw [made]
    exact kept
  · unfold configured?
    rw [made]
    exact (kept.setLevel _).congr (levels_log _ _)

/-- A level is applied unless no bytes spell the path of the log file, or it ends early. -/
theorem exists_configured? {settings : Option Settings} (whole : ∀ s ∈ settings, ¬ Misspelled s)
    (v : LogService) (files : Files) (ls : Loggers) :
    ∃ level, v.configured? settings files ls = some level := by
  rcases v.cases_configure settings files ls with ⟨fault, stopped, -⟩ | ⟨_, rfl, made⟩
  · rcases ls.ready.cases_attachFile settings files with ⟨_, _, said⟩ | ⟨_, _, _, _, -, said⟩ |
      ⟨s, _, rfl, asked, failed, stops, said⟩
    · rw [said] at stopped
      cases stopped
    · rw [said] at stopped
      cases stopped
    · exact absurd (misspelled_of_openFile asked failed stops) (whole s rfl)
  · refine ⟨(settings.map Settings.logLevel).getD v.level, ?_⟩
    unfold configured?
    rw [made]

/-- The console is attached, handlers are kept, and none is attached twice. -/
theorem handlers_configure (v : LogService) (settings : Option Settings) (files : Files) (ls : Loggers) :
    .console ∈ (v.configure settings files ls).2.1.handlers ∧
      ls.handlers ⊆ (v.configure settings files ls).2.1.handlers ∧
      (ls.handlers.Nodup → (v.configure settings files ls).2.1.handlers.Nodup) := by
  have same : (v.configure settings files ls).2.1.handlers =
      (ls.ready.attachFile settings files).1.handlers := by
    rcases v.cases_configure settings files ls with ⟨fault, -, made⟩ | ⟨_, rfl, made⟩
    · rw [made]
    · rw [made]
      exact handlers_log _ _
  obtain ⟨console, held, once⟩ := ls.handlers_ready
  obtain ⟨kept, single⟩ := ls.ready.handlers_attachFile settings files
  rw [same]
  exact ⟨kept console, List.Subset.trans held kept, fun distinct => single (once distinct)⟩

end LogService

/-! ## Any number of services -/

/-- The loggers, and the services that give them out, by number. -/
structure Logging where
  loggers : Loggers := {}
  services : Nat → LogService := fun _ => {}

/-- What is asked of services.  Any of them may give out a logger; handlers are attached and levels set by
one and the same. -/
inductive LogCall where
  | obtain (service : Nat) (name : String)
  | configure (settings : Option Settings) (files : Files)
  | setLevel (level : LogLevel)

/-- The call sets a level, or attaches handlers with no log file whose path has a fault by itself. -/
def LogCall.Sets : LogCall → Prop
  | .obtain .. => False
  | .configure settings _ => ∀ s ∈ settings, ¬ Loggers.Misspelled s
  | .setLevel _ => True

namespace Logging

/-- The loggers and services after a call, where `main` is the service that sets levels. -/
def meet (main : Nat) (g : Logging) : LogCall → Logging
  | .obtain i name =>
    { loggers := g.loggers.add name
      services := Function.update g.services i ((g.services i).obtain name) }
  | .configure settings files =>
    let (v, loggers, _) := (g.services main).configure settings files g.loggers
    { loggers, services := Function.update g.services main v }
  | .setLevel level =>
    let (v, loggers) := (g.services main).setLevel level g.loggers
    { loggers, services := Function.update g.services main v }

/-- The loggers and services after some calls, from first to last. -/
def after (main : Nat) (g : Logging) (calls : List LogCall) : Logging := calls.foldl (meet main) g

/-- The level that a call applies, if it gets as far. -/
def applied? (main : Nat) (g : Logging) : LogCall → Option LogLevel
  | .obtain .. => none
  | .configure settings files => (g.services main).configured? settings files g.loggers
  | .setLevel level => some level

/-- The level that was applied last in some calls. -/
def lastApplied? (main : Nat) (g : Logging) : List LogCall → Option LogLevel
  | [] => none
  | c :: calls => (lastApplied? main (g.meet main c) calls).or (g.applied? main c)

variable {main : Nat} {g : Logging} {level? : Option LogLevel}

/-- **One call keeps the level that was applied last in force.** -/
theorem governs_meet (governs : (g.services main).Governs g.loggers level?) (c : LogCall) :
    ((g.meet main c).services main).Governs (g.meet main c).loggers ((g.applied? main c).or level?) := by
  cases c with
  | obtain i name =>
      by_cases same : main = i
      · subst same
        simp only [meet, Function.update_self]
        exact (governs.obtain name).congr rfl
      · simp only [meet, Function.update_of_ne same]
        exact governs.congr rfl
  | configure settings files =>
      simp only [meet, Function.update_self]
      exact governs.configure settings files
  | setLevel level =>
      simp only [meet, Function.update_self]
      exact governs.setLevel level

/-- Run lemma: after any calls the level governs that was applied last. -/
theorem governs_after (governs : (g.services main).Governs g.loggers level?) (calls : List LogCall) :
    ((g.after main calls).services main).Governs (g.after main calls).loggers
      ((g.lastApplied? main calls).or level?) := by
  induction calls generalizing g level? with
  | nil => exact governs
  | cons c calls ih =>
      have next := ih (governs_meet governs c)
      rw [← Option.or_assoc] at next
      exact next

/-- After a call that sets a level there is one that was applied last. -/
theorem exists_lastApplied? {calls : List LogCall} {c : LogCall} (member : c ∈ calls) (sets : c.Sets) :
    ∃ level, g.lastApplied? main calls = some level := by
  induction calls generalizing g with
  | nil => cases member
  | cons first calls ih =>
      unfold lastApplied?
      rcases List.mem_cons.1 member with rfl | later
      · have applies : ∃ level, g.applied? main c = some level := by
          cases c with
          | obtain i name => cases sets
          | configure settings files => exact LogService.exists_configured? sets _ files g.loggers
          | setLevel level => exact ⟨level, rfl⟩
        obtain ⟨level, applied⟩ := applies
        cases lastApplied? main (g.meet main c) calls with
        | none => exact ⟨level, applied⟩
        | some later => exact ⟨later, rfl⟩
      · obtain ⟨level, applied⟩ := ih (g := g.meet main first) later
        exact ⟨level, by rw [applied]; rfl⟩

/-- Calls keep handlers and attach none twice. -/
theorem handlers_meet (main : Nat) (g : Logging) (c : LogCall) :
    g.loggers.handlers ⊆ (g.meet main c).loggers.handlers ∧
      (g.loggers.handlers.Nodup → (g.meet main c).loggers.handlers.Nodup) := by
  cases c with
  | configure settings files =>
      obtain ⟨-, kept, single⟩ := (g.services main).handlers_configure settings files g.loggers
      exact ⟨kept, single⟩
  | _ => exact ⟨List.Subset.refl _, id⟩

/-- No call takes a handler away or attaches one twice. -/
theorem handlers_after (main : Nat) (g : Logging) (calls : List LogCall) :
    g.loggers.handlers ⊆ (g.after main calls).loggers.handlers ∧
      (g.loggers.handlers.Nodup → (g.after main calls).loggers.handlers.Nodup) := by
  induction calls generalizing g with
  | nil => exact ⟨List.Subset.refl _, id⟩
  | cons c calls ih =>
      obtain ⟨kept, single⟩ := g.handlers_meet main c
      obtain ⟨keptLater, singleLater⟩ := ih (g.meet main c)
      exact ⟨List.Subset.trans kept keptLater, fun distinct => singleLater (single distinct)⟩

/-- Once handlers were attached the console is one of them, and stays one. -/
theorem console_mem_after {calls : List LogCall} {settings : Option Settings} {files : Files}
    (member : .configure settings files ∈ calls) (main : Nat) (g : Logging) :
    .console ∈ (g.after main calls).loggers.handlers := by
  induction calls generalizing g with
  | nil => cases member
  | cons c calls ih =>
      rcases List.mem_cons.1 member with rfl | later
      · have attached := ((g.services main).handlers_configure settings files g.loggers).1
        exact (handlers_after main (g.meet main (.configure settings files)) calls).1 attached
      · exact ih later (g.meet main c)

/-- **One level governs all loggers of the package.**  Services give out loggers, and one of them also attaches
handlers and sets levels, in any order, from loggers of which none below the package's name has a level of
its own.  The level that was applied last is that of the package's logger and of all that it stands above,
whether they were given out or not, by which service and when; and it stands above each whose name begins with
its own and a dot, unless another dot follows.  A level is applied by setting one, and by attaching handlers
unless that fails, as it can only where no bytes spell the path of the log file or the path ends early.  Once
handlers were attached the console is one of them, just once, and there is one for a file at most. -/
theorem one_level_governs (main : Nat) {g : Logging}
    (unset : ∀ name, Loggers.IsPackaged name → g.loggers.own name = 0)
    (single : g.loggers.handlers.Nodup) (calls : List LogCall) :
    (∀ level, g.lastApplied? main calls = some level → ∀ name, Loggers.IsPackaged name →
      packageLogger ∈ (g.after main calls).loggers.lineage name →
      (g.after main calls).loggers.effective name = level.severity) ∧
    (packageLogger ∈ (g.after main calls).loggers.lineage packageLogger ∧
      ∀ part : String, part.toList.head? ≠ some '.' →
        packageLogger ∈ (g.after main calls).loggers.lineage (moduleLogger part)) ∧
    ((∃ c ∈ calls, c.Sets) → ∃ level, g.lastApplied? main calls = some level) ∧
    ((∃ settings files, .configure settings files ∈ calls) →
      (g.after main calls).loggers.handlers.count .console = 1) ∧
    (g.after main calls).loggers.handlers.count .file ≤ 1 := by
  have started : (g.services main).Governs g.loggers none := by
    constructor
    · nofun
    · intro name packaged has
      exact absurd (unset name packaged) has
    · intro name packaged has
      exact absurd (unset name packaged) has
  have governs := governs_after started calls
  have distinct := (g.handlers_after main calls).2 single
  refine ⟨?level, ⟨Loggers.mem_lineage_package _, fun part => Loggers.mem_lineage _⟩, ?applied, ?console, ?file⟩
  case level =>
    intro level last name packaged stands
    rw [last] at governs
    refine Loggers.effective_of_near ?_ ?_ (governs.package level rfl) packaged stands
    · cases level <;> decide
    · intro other below
      by_cases has : (g.after main calls).loggers.own other = 0
      · exact .inl has
      · obtain ⟨_, ⟨⟩, same⟩ := governs.one other below has
        exact .inr same
  case applied =>
    rintro ⟨c, member, sets⟩
    exact exists_lastApplied? member sets
  case console =>
    rintro ⟨settings, files, member⟩
    exact List.count_eq_one_of_mem distinct (console_mem_after member main g)
  case file =>
    exact List.nodup_iff_count_le_one.1 distinct .file

/-- Settings that ask for a log file. -/
def filing : Settings := { logLevel := .alert, logToFile := true, logFile := some "x.log" }

/-- Loggers are given out by three services, before levels are set and after, and handlers attached twice. -/
def busy : List LogCall :=
  [.obtain 1 "mcp_graphql.a.b", .configure none [], .obtain 0 "mcp_graphql.a", .setLevel .debug,
    .obtain 2 "mcp_graphql.a.b.c", .configure (some filing) [], .setLevel .notice, .obtain 0 "mcp_graphql.z"]

/-- Two services give out loggers before and after levels are set and handlers attached twice. -/
theorem one_level_governs_busy :
    (∀ name, Loggers.IsPackaged name → ({} : Logging).loggers.own name = 0) ∧
    ({} : Logging).loggers.handlers.Nodup ∧
    (∀ name ∈ ["mcp_graphql", "mcp_graphql.a", "mcp_graphql.a.b.c", "mcp_graphql.z"],
      (({} : Logging).after 0 busy).loggers.effective name = LogLevel.severity .notice) ∧
    (({} : Logging).after 0 busy).loggers.handlers.count .console = 1 ∧
    (({} : Logging).after 0 busy).loggers.handlers.count .file ≤ 1 := by
  have unset (name : String) (packaged : Loggers.IsPackaged name) : ({} : Logging).loggers.own name = 0 := by
    have differs : rootLogger ≠ name := by
      rintro rfl
      rcases packaged with same | ⟨part, same⟩
      · exact absurd same (by decide)
      · have lengths := congrArg (fun s => s.toList.length) same
        simp [moduleLogger, packageLogger, rootLogger] at lengths
    unfold Loggers.own
    rw [packaged.key_eq]
    simp [Keyed.get?, differs]
  have single : ({} : Logging).loggers.handlers.Nodup := List.nodup_nil
  obtain ⟨levels, ⟨package, stands⟩, -, console, file⟩ := one_level_governs 0 unset single busy
  have last : ({} : Logging).lastApplied? 0 busy = some .notice := by decide +kernel
  refine ⟨unset, single, ?_, console ⟨none, [], by simp [busy]⟩, file⟩
  have below (part : String) (single : part.toList.head? ≠ some '.') :=
    levels _ last (moduleLogger part) (.inr ⟨part, rfl⟩) (stands part single)
  intro name member
  simp only [List.mem_cons, List.not_mem_nil, or_false] at member
  rcases member with rfl | rfl | rfl | rfl
  · exact levels _ last packageLogger (.inl rfl) package
  · exact below "a" (by decide)
  · exact below "a.b.c" (by decide)
  · exact below "z" (by decide)

/-- **A call whose log file has a path that ends early applies no level**, though the console is attached; and a
level does not reach a logger with two dots behind the package's name. -/
theorem exists_ungoverned :
    (let settings : Settings := { logToFile := true, logFile := some "a\x00b" }
     let calls := [.configure (some settings) []]
     ({} : Logging).lastApplied? 0 calls = none ∧
      (({} : Logging).after 0 calls).loggers.handlers.count .console = 1 ∧
      (({} : Logging).after 0 calls).loggers.effective packageLogger = LogLevel.severity .warning ∧
      settings.logLevel.severity ≠ LogLevel.severity .warning) ∧
    let calls := [.setLevel .debug, .obtain 0 "mcp_graphql..a"]
    ({} : Logging).lastApplied? 0 calls = some .debug ∧
      (({} : Logging).after 0 calls).loggers.effective "mcp_graphql..a" = LogLevel.severity .warning := by
  decide +kernel

end Logging

end QueryTools
