import Serrano.Foundation.NumberInput
import Serrano.Utils.TrimSpace

/-! # The display

The calibration of the colours is kept by the driver as three numbers in one line. The mode
of the display is kept by the driver as well, and the mode to begin with in a file that
outlives the service. A stream is asked for failures before it is closed, and what is still
buffered then may be lost without anybody noticing.
-/

namespace Serrano.Hidl.LiveDisplay

open NumberInput Strtol

/-! ## Calibration -/

def getMaxValue : Int32 := 32768

def getMinValue : Int32 := 255

/-- What is written for a calibration, before blanks are cut off. -/
def contents (rgb : List Int32) : List Char := rgb.flatMap fun color => printed color ++ [' ']

/-- The functions of `android-base` that are called. -/
structure AndroidBase where
  trim : List Char → List Char
  split : List Char → List Char → List (List Char)

section

variable (base : AndroidBase)

/-- `Trim` takes the white space off both ends, and `Split` cuts at each delimiter. -/
structure AndroidBase.Documented : Prop where
  trim : ∀ {before body after}, (∀ c ∈ before, isSpace c = true) →
    (∀ c ∈ after, isSpace c = true) → (∃ c ∈ body.head?, isSpace c = false) →
    (∃ c ∈ body.getLast?, isSpace c = false) → base.trim (before ++ (body ++ after)) = body
  trim_blank : ∀ {text}, (∀ c ∈ text, isSpace c = true) → base.trim text = []
  split : ∀ {delimiter fields}, fields ≠ [] → (∀ field ∈ fields, delimiter ∉ field) →
    base.split ([delimiter].intercalate fields) [delimiter] = fields

/-- Whether the file was written, and the file. -/
def setCalibration (fileRgb : Option (List Char)) (rgb : List Int32) (written : Bool) :
    Bool × Option (List Char) :=
  if written then (true, some (base.trim (contents rgb))) else (false, fileRgb)

/-- `none` when `std::stoi` throws, which nothing catches. -/
def getCalibration (fileRgb : Option (List Char)) : Option (List Int32) :=
  match fileRgb with
  | some tmp => (base.split (base.trim tmp) [' ']).mapM stoi
  | none => some []

end

/-! ## Modes -/

def kModeMap : List (Int32 × String) :=
  [(0, "Dynamic"), (1, "Standard"), (2, "Natural"), (3, "Cinema"), (4, "Adaptive")]

/-- `kModeMap.find` -/
def find (modeID : Int32) : Option (Int32 × String) := kModeMap.find? (·.1 = modeID)

/-- The member of the service, what was written to `kModePath` in order, and the file
`kDefaultPath`, if there is one. -/
structure DisplayModes where
  mDefaultModeId : Int32
  mode : List (List Char)
  defaultFile : Option (List Char)
  deriving DecidableEq

/-- Whether the files of a call can be opened, and whether what was buffered is stored when
they are closed. The constructor only reads the second file. -/
structure Streams where
  modeOpens : Bool
  modeStores : Bool
  defaultOpens : Bool
  defaultStores : Bool
  deriving DecidableEq

def setDisplayMode (d : DisplayModes) (modeID : Int32) (makeDefault : Bool) (io : Streams) :
    Bool × DisplayModes :=
  match find modeID with
  | none => (false, d)
  | some iter =>
      if ¬io.modeOpens then (false, d)
      else
        let d := if io.modeStores then { d with mode := d.mode ++ [printed iter.1] } else d
        if ¬makeDefault then (true, d)
        else if ¬io.defaultOpens then (false, d)
        else
          -- opening the file empties it
          (true, { d with
            mDefaultModeId := iter.1
            defaultFile := some (if io.defaultStores then printed iter.1 else []) })

/-- The mode that the constructor takes from the file; `none` when the stream fails. -/
def defaultIn (defaultFile : Option (List Char)) : Option Int32 :=
  match defaultFile.map extract with
  | some (.read value) => some (((find value).map (·.1)).getD 0)
  | _ => none

/-- The constructor. -/
def construct (mode : List (List Char)) (defaultFile : Option (List Char)) (io : Streams) :
    DisplayModes :=
  match defaultIn (if io.defaultOpens then defaultFile else none) with
  | none => ⟨0, mode, defaultFile⟩
  | some mDefaultModeId =>
      (setDisplayMode ⟨mDefaultModeId, mode, defaultFile⟩ mDefaultModeId false io).2

/-- `uninitialised` is what the local variable happens to hold. -/
def getDisplayModes (maxModeFile : Option (List Char)) (uninitialised : Int32) :
    List (Int32 × String) :=
  let value :=
    match maxModeFile.map extract with
    | none => Int32.ofInt kModeMap.length
    | some .untouched => uninitialised
    | some (.failed value) => value
    | some (.read value) => value
  kModeMap.filter (·.1 < value)

/-- `kModeMap.at`, which throws where this is `none`. -/
def getCurrentDisplayMode (d : DisplayModes) (modeFile : Option (List Char)) :
    Option (Int32 × String) :=
  let currentModeId :=
    match modeFile.map extract with
    | some (.read value) => ((find value).map (·.1)).getD d.mDefaultModeId
    | _ => d.mDefaultModeId
  find currentModeId

def getDefaultDisplayMode (d : DisplayModes) : Option (Int32 × String) := find d.mDefaultModeId

/-- What happens to the service; whoever restarts it may have killed it within a call. -/
inductive Action
  | setDisplayMode (modeID : Int32) (makeDefault : Bool) (io : Streams)
  | restart (io : Streams)
  deriving DecidableEq

def perform (d : DisplayModes) : Action → DisplayModes
  | .setDisplayMode modeID makeDefault io => (setDisplayMode d modeID makeDefault io).2
  | .restart io => construct d.mode d.defaultFile io

/-- The service from its first start with some file on. -/
def history (defaultFile : Option (List Char)) (io : Streams) (actions : List Action) :
    DisplayModes :=
  actions.foldl perform (construct [] defaultFile io)

/-! ## A calibration is read as it was set -/

theorem not_isSpace_of_mem_printed {c : Char} {n : Int32} (h : c ∈ printed n) :
    isSpace c = false := by
  by_contra hspace
  rw [Bool.not_eq_false, isSpace] at hspace
  simp only [Bool.or_eq_true, decide_eq_true_eq] at hspace
  have hnumeral := DecimalText.numeral_of_mem_integer h
  rcases hspace with ((((rfl | rfl) | rfl) | rfl) | rfl) | rfl <;> exact absurd hnumeral (by decide)

theorem contents_eq {rgb : List Int32} (h : rgb ≠ []) :
    contents rgb = [' '].intercalate (rgb.map printed) ++ [' '] := by
  induction rgb with
  | nil => exact absurd rfl h
  | cons color rest ih =>
      cases rest with
      | nil => simp [contents]
      | cons next rest =>
          rw [List.map_cons, List.map_cons, List.intercalate_cons_cons, ← List.map_cons,
            List.append_assoc, ← ih (List.cons_ne_nil _ _), contents, List.flatMap_cons]
          rfl

theorem printed_ne_nil (n : Int32) : printed n ≠ [] := by
  intro hnil
  have hany := printed_ne_blank n
  rw [hnil] at hany
  cases hany

theorem exists_head_intercalate (color : Int32) (rest : List Int32) :
    ∃ c ∈ ([' '].intercalate ((color :: rest).map printed)).head?, isSpace c = false := by
  obtain ⟨c, more, hcolor⟩ := List.exists_cons_of_ne_nil (printed_ne_nil color)
  have hspace : isSpace c = false :=
    not_isSpace_of_mem_printed (hcolor ▸ List.mem_cons_self : c ∈ printed color)
  refine ⟨c, ?_, hspace⟩
  cases rest with
  | nil => simp [hcolor]
  | cons next rest =>
      rw [List.map_cons, List.map_cons, List.intercalate_cons_cons, hcolor]
      rfl

theorem exists_last_intercalate (color : Int32) (rest : List Int32) :
    ∃ c ∈ ([' '].intercalate ((color :: rest).map printed)).getLast?, isSpace c = false := by
  induction rest generalizing color with
  | nil =>
      obtain ⟨front, c, hcolor⟩ := List.eq_nil_or_concat (printed color) |>.resolve_left
        (printed_ne_nil color)
      refine ⟨c, ?_, not_isSpace_of_mem_printed (n := color) ?_⟩
      · simp [hcolor]
      · simp [hcolor]
  | cons next rest ih =>
      obtain ⟨c, hlast, hspace⟩ := ih next
      refine ⟨c, ?_, hspace⟩
      rw [List.map_cons, List.map_cons, List.intercalate_cons_cons, ← List.map_cons,
        List.getLast?_append, hlast]
      rfl

theorem mapM_stoi_printed (rgb : List Int32) : (rgb.map printed).mapM stoi = some rgb := by
  induction rgb with
  | nil => rfl
  | cons color rest ih =>
      rw [List.map_cons, List.mapM_cons, stoi_printed, ih]
      rfl

/-- What begins and ends with no blank is what is left of it between blanks. -/
theorem trimmed_between {before body after : List Char}
    (hbefore : ∀ c ∈ before, isSpace c = true) (hafter : ∀ c ∈ after, isSpace c = true)
    (hfirst : ∃ c ∈ body.head?, isSpace c = false)
    (hlast : ∃ c ∈ body.getLast?, isSpace c = false) :
    Utils.trimmed (before ++ (body ++ after)) = body := by
  obtain ⟨first, hfirst, hnofirst⟩ := hfirst
  obtain ⟨last, hlast, hnolast⟩ := hlast
  obtain ⟨rest, rfl⟩ := List.head?_eq_some_iff.mp hfirst
  obtain ⟨front, hfront⟩ := List.getLast?_eq_some_iff.mp hlast
  rw [Utils.trimmed, dropWhile_blanks hbefore, List.cons_append,
    List.dropWhile_cons_of_neg (by simp [hnofirst]), ← List.cons_append, hfront]
  have hdrop : ∀ tail : List Char, (∀ c ∈ tail, isSpace c = true) →
      (front ++ [last] ++ tail).rdropWhile isSpace = front ++ [last] := by
    intro tail htail
    induction tail using List.reverseRecOn with
    | nil => rw [List.append_nil, List.rdropWhile_concat_neg _ _ _ (by simp [hnolast])]
    | append_singleton tail c ih =>
        rw [← List.append_assoc, List.rdropWhile_concat_pos _ _ _ (htail c (by simp))]
        exact ih fun d hd => htail d (List.mem_append_left _ hd)
  exact hdrop after hafter

theorem trimmed_of_blank {text : List Char} (h : ∀ c ∈ text, isSpace c = true) :
    Utils.trimmed text = [] := by
  rw [Utils.trimmed, List.dropWhile_eq_nil_iff.mpr h, List.rdropWhile_nil]

/-- The functions as they are documented. -/
def androidBase : AndroidBase where
  trim := Utils.trimmed
  split text delimiters := text.splitOnP delimiters.contains

theorem androidBase_documented : androidBase.Documented where
  trim := trimmed_between
  trim_blank := trimmed_of_blank
  split := by
    intro delimiter fields hne hfields
    have hcontains : [delimiter].contains = (· == delimiter) := by
      funext c
      exact Bool.or_false _
    change List.splitOnP [delimiter].contains _ = fields
    rw [hcontains, ← List.splitOn_eq_splitOnP]
    exact List.splitOn_intercalate delimiter hfields hne

section

variable {base : AndroidBase}

/-- What is written has no blanks at its ends. -/
theorem trim_contents (hbase : base.Documented) {rgb : List Int32} (h : rgb ≠ []) :
    base.trim (contents rgb) = [' '].intercalate (rgb.map printed) := by
  obtain ⟨color, rest, rfl⟩ := List.exists_cons_of_ne_nil h
  have hnone : ∀ c ∈ ([] : List Char), isSpace c = true := by simp
  rw [contents_eq h]
  exact hbase.trim hnone (by simp [isSpace]) (exists_head_intercalate color rest)
    (exists_last_intercalate color rest)

/-- The line of a calibration, whatever blanks the driver shows around it. -/
theorem getCalibration_between (hbase : base.Documented) {before after : List Char}
    (hbefore : ∀ c ∈ before, isSpace c = true) (hafter : ∀ c ∈ after, isSpace c = true)
    (rgb : List Int32) :
    getCalibration base (some (before ++ (base.trim (contents rgb) ++ after))) =
      if rgb = [] then none else some rgb := by
  rw [getCalibration]
  cases rgb with
  | nil =>
      have hempty : base.trim (contents []) = [] := hbase.trim_blank (by simp [contents])
      have hblank : ∀ c ∈ before ++ ([] ++ after), isSpace c = true := by
        intro c hc
        rcases List.mem_append.mp hc with hc | hc
        · exact hbefore c hc
        · exact hafter c hc
      have hsplit : base.split ([' '].intercalate [[]]) [' '] = [[]] :=
        hbase.split (List.cons_ne_nil _ _) (by simp)
      rw [List.intercalate_singleton] at hsplit
      rw [if_pos rfl, hempty, hbase.trim_blank hblank, hsplit]
      rfl
  | cons color rest =>
      rw [if_neg (List.cons_ne_nil _ _), trim_contents hbase (List.cons_ne_nil _ _),
        hbase.trim hbefore hafter (exists_head_intercalate color rest)
          (exists_last_intercalate color rest), hbase.split]
      · exact mapM_stoi_printed _
      · simp
      · intro line hline hblank
        obtain ⟨n, -, rfl⟩ := List.mem_map.mp hline
        have hspace := not_isSpace_of_mem_printed hblank
        cases hspace

/-- A calibration that was set is read again, whatever blanks the driver shows around it, unless
it has no colours: then nothing is read, since `std::stoi` throws. -/
theorem calibration_read_as_set (hbase : base.Documented) {fileRgb : Option (List Char)}
    {rgb : List Int32} {written : Bool} {line before after : List Char}
    (hset : setCalibration base fileRgb rgb written = (true, some line))
    (hbefore : ∀ c ∈ before, isSpace c = true) (hafter : ∀ c ∈ after, isSpace c = true) :
    getCalibration base (some (before ++ (line ++ after))) =
      if rgb = [] then none else some rgb := by
  rw [setCalibration] at hset
  split at hset
  next =>
    obtain rfl := Option.some.inj (Prod.mk.inj hset).2
    exact getCalibration_between hbase hbefore hafter rgb
  next => cases hset

end

theorem calibration_read_as_set_reversed :
    getCalibration androidBase (some ([] ++ ("255 -1 32768".toList ++ [' ', '\n']))) =
      some [255, -1, 32768] := by
  have hset : setCalibration androidBase none [255, -1, 32768] true =
      (true, some "255 -1 32768".toList) := by
    decide
  exact calibration_read_as_set androidBase_documented hset (by simp) (by simp [isSpace])

/-! ## The mode to begin with -/

/-- The mode that an action makes the default, and whether the file has it then. -/
def Action.saves : Action → Option (Int32 × Bool)
  | .setDisplayMode modeID makeDefault io =>
      match find modeID with
      | none => none
      | some iter =>
          if io.modeOpens ∧ makeDefault ∧ io.defaultOpens then some (iter.1, io.defaultStores)
          else none
  | .restart _ => none

/-- The last save since the service was started, once an action is performed. -/
def Action.lastSaveAfter (last : Option (Int32 × Bool)) : Action → Option (Int32 × Bool)
  | .setDisplayMode modeID makeDefault io => (saves (.setDisplayMode modeID makeDefault io)).or last
  | .restart _ => none

def Action.lastStartAfter (last : Streams) : Action → Streams
  | .setDisplayMode .. => last
  | .restart io => io

def lastSave (actions : List Action) : Option (Int32 × Bool) :=
  actions.foldl Action.lastSaveAfter none

/-- The streams of the last start of the service. -/
def lastStart (io : Streams) (actions : List Action) : Streams :=
  actions.foldl Action.lastStartAfter io

theorem find_fst {modeID : Int32} {iter : Int32 × String} (h : find modeID = some iter) :
    iter.1 = modeID :=
  of_decide_eq_true (List.find?_some h :)

theorem isSome_find_zero : (find 0).isSome = true := by decide

/-- A mode that is looked up is one of the table, or the one it falls back to. -/
theorem isSome_find_getD {fallback : Int32} (hfallback : (find fallback).isSome = true)
    (modeID : Int32) : (find (((find modeID).map (·.1)).getD fallback)).isSome = true := by
  cases hfind : find modeID with
  | none => exact hfallback
  | some iter =>
      rw [Option.map_some, Option.getD_some, find_fst hfind, hfind]
      rfl

theorem isSome_find_defaultIn (defaultFile : Option (List Char)) :
    (find ((defaultIn defaultFile).getD 0)).isSome = true := by
  rw [defaultIn]
  split
  next value _ => exact isSome_find_getD isSome_find_zero value
  next => exact isSome_find_zero

/-- A mode that is made the default is found again, if the file has it. -/
theorem defaultIn_stored {modeID : Int32} {iter : Int32 × String} (h : find modeID = some iter)
    (stored : Bool) :
    (defaultIn (some (if stored then printed iter.1 else []))).getD 0 =
      if stored then iter.1 else 0 := by
  cases stored with
  | false => rfl
  | true =>
      have hfst := find_fst h
      simp only [defaultIn, Option.map_some, if_true, extract_printed, Option.getD_some]
      rw [hfst, h, Option.map_some, Option.getD_some, hfst]

section

variable {d : DisplayModes} {modeID : Int32} {makeDefault : Bool} {io : Streams}

/-- A call that saves nothing leaves the default and its file as they are. -/
theorem setDisplayMode_of_not_saves
    (h : (Action.setDisplayMode modeID makeDefault io).saves = none) :
    (setDisplayMode d modeID makeDefault io).2.mDefaultModeId = d.mDefaultModeId ∧
      (setDisplayMode d modeID makeDefault io).2.defaultFile = d.defaultFile := by
  rw [Action.saves] at h
  rw [setDisplayMode]
  cases hfind : find modeID with
  | none => exact ⟨rfl, rfl⟩
  | some iter =>
      rw [hfind] at h
      dsimp only at h ⊢
      by_cases hmode : io.modeOpens = true
      · rw [if_neg (not_not_intro hmode)]
        have hdriver : ∀ d' : DisplayModes,
            d' = (if io.modeStores then { d with mode := d.mode ++ [printed iter.1] } else d) →
            d'.mDefaultModeId = d.mDefaultModeId ∧ d'.defaultFile = d.defaultFile := by
          rintro d' rfl
          split <;> exact ⟨rfl, rfl⟩
        by_cases hmake : makeDefault = true
        · have hdefault : ¬io.defaultOpens = true := by
            intro hopens
            rw [if_pos ⟨hmode, hmake, hopens⟩] at h
            cases h
          rw [if_neg (not_not_intro hmake), if_pos hdefault]
          exact hdriver _ rfl
        · rw [if_pos hmake]
          exact hdriver _ rfl
      · rw [if_pos hmode]
        exact ⟨rfl, rfl⟩

/-- A call that saves a mode of the table empties the file, and fills it if that is stored. -/
theorem setDisplayMode_of_saves {save : Int32 × Bool}
    (h : (Action.setDisplayMode modeID makeDefault io).saves = some save) :
    ∃ iter, find modeID = some iter ∧ save.1 = iter.1 ∧
      (setDisplayMode d modeID makeDefault io).2.mDefaultModeId = save.1 ∧
      (setDisplayMode d modeID makeDefault io).2.defaultFile =
        some (if save.2 then printed iter.1 else []) := by
  rw [Action.saves] at h
  rw [setDisplayMode]
  cases hfind : find modeID with
  | none =>
      rw [hfind] at h
      cases h
  | some iter =>
      rw [hfind] at h
      dsimp only at h ⊢
      split at h
      next hsaves =>
        obtain ⟨hmode, hmake, hdefault⟩ := hsaves
        obtain rfl := Option.some.inj h
        rw [if_neg (not_not_intro hmode), if_neg (not_not_intro hmake),
          if_neg (not_not_intro hdefault)]
        exact ⟨iter, rfl, rfl, rfl, rfl⟩
      next => cases h

end

/-- The service begins with the mode in the file, if it can be read, and leaves the file as
it is. -/
theorem construct_default (mode : List (List Char)) (defaultFile : Option (List Char))
    (io : Streams) :
    (construct mode defaultFile io).mDefaultModeId =
        (if io.defaultOpens then (defaultIn defaultFile).getD 0 else 0) ∧
      (construct mode defaultFile io).defaultFile = defaultFile := by
  have hread : (defaultIn (if io.defaultOpens then defaultFile else none)).getD 0 =
      if io.defaultOpens then (defaultIn defaultFile).getD 0 else 0 := by
    split <;> rfl
  rw [construct, ← hread]
  cases hdefault : defaultIn (if io.defaultOpens then defaultFile else none) with
  | none => exact ⟨rfl, rfl⟩
  | some mDefaultModeId =>
      apply setDisplayMode_of_not_saves
      rw [Action.saves]
      split
      next => rfl
      next => rw [if_neg (by simp)]

/-- What the service and the file have to do with the last start and the last save. -/
structure Agrees (d : DisplayModes) (start : Streams) (last : Option (Int32 × Bool)) : Prop where
  known : (find d.mDefaultModeId).isSome = true
  kept : last = none → start.defaultOpens = true →
    (defaultIn d.defaultFile).getD 0 = d.mDefaultModeId
  saved : ∀ save, last = some save → d.mDefaultModeId = save.1 ∧
    (defaultIn d.defaultFile).getD 0 = if save.2 then save.1 else 0

theorem agrees_construct (mode : List (List Char)) (defaultFile : Option (List Char))
    (io : Streams) : Agrees (construct mode defaultFile io) io none := by
  obtain ⟨hmode, hfile⟩ := construct_default mode defaultFile io
  constructor
  · rw [hmode]
    split
    · exact isSome_find_defaultIn defaultFile
    · exact isSome_find_zero
  · intro _ hopens
    rw [hmode, hfile, if_pos hopens]
  · intro save h
    cases h

theorem Agrees.perform {d : DisplayModes} {start : Streams} {last : Option (Int32 × Bool)}
    (h : Agrees d start last) (action : Action) :
    Agrees (perform d action) (action.lastStartAfter start) (action.lastSaveAfter last) := by
  cases action with
  | restart io => exact agrees_construct d.mode d.defaultFile io
  | setDisplayMode modeID makeDefault io =>
      rw [Action.lastSaveAfter]
      change Agrees (LiveDisplay.setDisplayMode d modeID makeDefault io).2 start _
      cases hsaves : (Action.setDisplayMode modeID makeDefault io).saves with
      | none =>
          obtain ⟨hmode, hfile⟩ := setDisplayMode_of_not_saves (d := d) hsaves
          rw [Option.none_or]
          constructor
          · rw [hmode]
            exact h.known
          · rw [hmode, hfile]
            exact h.kept
          · rw [hmode, hfile]
            exact h.saved
      | some save =>
          obtain ⟨iter, hfind, hfst, hmode, hfile⟩ := setDisplayMode_of_saves (d := d) hsaves
          rw [Option.some_or]
          constructor
          · rw [hmode, hfst, find_fst hfind, hfind]
            rfl
          · intro hnone
            cases hnone
          · intro save' heq
            obtain rfl := Option.some.inj heq
            rw [hmode, hfile, defaultIn_stored hfind, hfst]
            exact ⟨rfl, rfl⟩

theorem agrees_history (defaultFile : Option (List Char)) (io : Streams) (actions : List Action) :
    Agrees (history defaultFile io actions) (lastStart io actions) (lastSave actions) := by
  -- from the front, for any state, any start and any last save to begin with
  have hfold : ∀ (actions : List Action) (d : DisplayModes) (start : Streams)
      (last : Option (Int32 × Bool)), Agrees d start last →
        Agrees (actions.foldl LiveDisplay.perform d)
          (actions.foldl Action.lastStartAfter start)
          (actions.foldl Action.lastSaveAfter last) := by
    intro actions
    induction actions with
    | nil => exact fun d start last h => h
    | cons action rest ih => exact fun d start last h => ih _ _ _ (h.perform action)
  exact hfold actions _ _ _ (agrees_construct [] defaultFile io)

/-- Whatever the file had at first and whatever streams fail, the service has a mode of the table
to answer with, namely the last one that was made the default. The next start of the service
finds it again, except when it cannot read the file or the last save was lost: then it finds the
first mode of the table. A service that could not read the file itself, and has saved nothing
since, leaves it what the file has. -/
theorem default_across_restarts (defaultFile : Option (List Char)) (io : Streams)
    (actions : List Action) :
    (∀ modeFile, (getCurrentDisplayMode (history defaultFile io actions) modeFile).isSome = true) ∧
      (getDefaultDisplayMode (history defaultFile io actions)).isSome = true ∧
      (∀ save ∈ lastSave actions, (history defaultFile io actions).mDefaultModeId = save.1) ∧
      ∀ io', (history defaultFile io (actions ++ [.restart io'])).mDefaultModeId =
        if ¬io'.defaultOpens ∨ (lastSave actions).any (fun save => !save.2) then 0
        else if lastSave actions = none ∧ ¬(lastStart io actions).defaultOpens then
          (defaultIn (history defaultFile io actions).defaultFile).getD 0
        else (history defaultFile io actions).mDefaultModeId := by
  have hagrees := agrees_history defaultFile io actions
  refine ⟨fun modeFile => ?_, hagrees.known, fun save hsave => (hagrees.saved save hsave).1,
    fun io' => ?_⟩
  · rw [getCurrentDisplayMode]
    split
    next value _ => exact isSome_find_getD hagrees.known value
    next => exact hagrees.known
  · rw [history, List.foldl_append]
    change (construct (history defaultFile io actions).mode
      (history defaultFile io actions).defaultFile io').mDefaultModeId = _
    rw [(construct_default _ _ io').1]
    by_cases hopens : io'.defaultOpens = true
    · rw [if_pos hopens]
      cases hlast : lastSave actions with
      | none =>
          rw [if_neg (by simp [hopens])]
          split
          next => rfl
          next hstart =>
            exact hagrees.kept hlast (by simpa using hstart)
      | some save =>
          obtain ⟨hmode, hfile⟩ := hagrees.saved save hlast
          rw [hfile, hmode]
          cases hsaved : save.2 with
          | false => rw [if_neg Bool.false_ne_true, if_pos (.inr (by simp [hsaved]))]
          | true =>
              rw [if_pos rfl, if_neg (by simp [hopens, hsaved]), if_neg (by simp)]
    · rw [if_neg hopens, if_pos (.inl hopens)]

end Serrano.Hidl.LiveDisplay
