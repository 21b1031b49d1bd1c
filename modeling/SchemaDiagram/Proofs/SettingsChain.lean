import SchemaDiagram.Config.Store
import SchemaDiagram.Proofs.MapUpdate

/-! # The chain of changes of the settings

The settings of a store are always valid. An update reads the settings anew, with the changed values
in place of their own; it is refused and nothing happens, or it is accepted, and then every listener
hears of what has become different. So the changes of a run form a chain, from the first settings to
those of the store. All this holds with any conversions of values that come to an end and leave the
values of settings as they are.

* **`Checked.IsDecided`** — a check that comes to an end.
* **`DisplaySettings.Conversions.IsLawful`** — what conversions are relied on for.
* **`DisplaySettings.readWith_merged`** — how the values of an update are read.
* **`SettingsStore.Answers`** — how an update is answered.
* **`StoreStep`**, **`StoreHistory.run`** — the runs of a store, and **`SettingsChange.Chain`** —
  chains of changes.
* **`StoreHistory.IsWellKept`** — what holds after every run (`chain_run`). -/

namespace SchemaDiagram

/-! ## Checks that come to an end -/

namespace Checked

variable {α β : Type}

/-- **A check that comes to an end**: the value is accepted, or it is refused and there is a
problem. -/
def IsDecided : Checked α → Prop
  | accepted _ => True
  | refused problems => problems ≠ []
  | undecided => False

/-- A refusal names its problem. -/
theorem isDecided_refuse {input : Json} {cause : ConfigCause} :
    (refuse input cause : Checked α).IsDecided :=
  List.cons_ne_nil _ _

/-- A value that may be missing is accepted, or its absence is the problem. -/
theorem isDecided_ofOption {input : Json} {cause : ConfigCause} {value : Option α} :
    (ofOption input cause value).IsDecided := by
  cases value with
  | none => exact isDecided_refuse
  | some x => trivial

/-- A result is accepted, or its failure is the problem. -/
theorem isDecided_ofExcept {input : Json} {result : Except ConfigCause α} :
    (ofExcept input result).IsDecided := by
  cases result with
  | ok x => trivial
  | error cause => exact isDecided_refuse

/-- Problems stay problems under a key. -/
theorem IsDecided.under {x : Checked α} (h : x.IsDecided) (key : Text) :
    (x.under key).IsDecided := by
  cases x with
  | accepted x => trivial
  | refused problems => exact mt List.map_eq_nil_iff.1 h
  | undecided => exact h

/-- Two checks that come to an end do so together. -/
theorem IsDecided.apply {f : Checked (α → β)} {x : Checked α} (hf : f.IsDecided)
    (hx : x.IsDecided) :
    (f.apply x).IsDecided := by
  cases f with
  | accepted f => cases x with
    | accepted x => trivial
    | refused problems => exact hx
    | undecided => exact hx
  | refused problems => cases x with
    | accepted x => exact hf
    | refused more => exact List.append_ne_nil_of_left_ne_nil hf more
    | undecided => exact hx
  | undecided => exact hf.elim

/-- A check that comes to an end accepts a value, or its problems have a first one. -/
theorem IsDecided.cases {x : Checked α} (h : x.IsDecided) :
    (∃ value, x = accepted value) ∨ ∃ p problems, x = refused (p :: problems) := by
  cases x with
  | accepted value => exact .inl ⟨value, rfl⟩
  | refused problems => cases problems with
    | nil => exact absurd rfl h
    | cons p problems => exact .inr ⟨p, problems, rfl⟩
  | undecided => exact h.elim

/-- A value is accepted just if all its parts are. -/
theorem apply_eq_accepted_iff {f : Checked (α → β)} {x : Checked α} {y : β} :
    f.apply x = accepted y ↔ ∃ g a, f = accepted g ∧ x = accepted a ∧ y = g a := by
  constructor
  · intro h
    cases f with
    | accepted g => cases x with
      | accepted a => exact ⟨g, a, rfl, rfl, (accepted.inj h).symm⟩
      | refused problems => cases h
      | undecided => cases h
    | refused problems => cases x <;> cases h
    | undecided => cases x <;> cases h
  · rintro ⟨g, a, rfl, rfl, rfl⟩
    rfl

/-- A key makes no difference to what is accepted. -/
theorem under_eq_accepted_iff {x : Checked α} {key : Text} {value : α} :
    x.under key = accepted value ↔ x = accepted value := by
  cases x <;> simp [under]

end Checked

namespace Config

open Checked

variable {α : Type}

/-- Every value is read as a whole number or refused. -/
theorem isDecided_integer (j : Json) : (integer j).IsDecided := by
  cases j with
  | int n => trivial
  | bool b => trivial
  -- A float is a whole number or refused.
  | float x =>
    rw [integer]
    split
    next => exact isDecided_refuse
    next =>
      split
      next => exact isDecided_refuse
      next => exact isDecided_ofOption
  | text s => exact isDecided_ofExcept
  | _ => exact isDecided_refuse

/-- Every value is read as a truth value or refused. -/
theorem isDecided_flag (j : Json) : (flag j).IsDecided := by
  cases j with
  | bool b => trivial
  -- Only zero and one stand for truth values.
  | int n =>
    rw [flag]
    split
    next => exact isDecided_ofOption
    next => exact isDecided_refuse
  | float x =>
    rw [flag]
    split
    next => exact isDecided_ofOption
    next => exact isDecided_refuse
  -- Some words stand for true, some for false, and the rest is refused.
  | text s =>
    simp only [flag]
    split
    next => trivial
    next =>
      split
      next => trivial
      next => exact isDecided_refuse
  | _ => exact isDecided_refuse

/-- Every value is read as one of the words or refused. -/
theorem isDecided_choice (all : List α) (name : α → String) (j : Json) :
    (choice all name j).IsDecided :=
  isDecided_ofOption

/-- A rule decides about every value that is read. -/
theorem isDecided_ruled {read : Json → Checked α} (h : ∀ j, (read j).IsDecided) (holds : α → Bool)
    (wording : α → Text) (j : Json) : (ruled read holds wording j).IsDecided := by
  obtain ⟨value, hread⟩ | ⟨p, problems, hread⟩ := (h j).cases
  · rw [ruled, hread]
    dsimp only
    split
    next => trivial
    next => exact isDecided_refuse
  · rw [ruled, hread]
    exact List.cons_ne_nil p problems

/-- What a rule lets through obeys it. -/
theorem holds_of_ruled {read : Json → Checked α} {holds : α → Bool} {wording : α → Text} {j : Json}
    {value : α} (h : ruled read holds wording j = accepted value) : holds value = true := by
  unfold ruled at h
  split at h
  next x hread =>
    split at h
    next hholds =>
      obtain rfl := accepted.inj h
      exact hholds
    next => cases h
  next hother => exact absurd h (hother value)

/-- The value of a key is decided about; a missing key has its default. -/
theorem isDecided_member {read : Json → Checked α} (h : ∀ j, (read j).IsDecided)
    (m : OrderedMap Json) (key : String) (default : α) : (member m key default read).IsDecided := by
  unfold member
  split
  next j _ => exact (h j).under _
  next => trivial

/-- The value of a key that is there is read. -/
theorem member_eq_accepted {read : Json → Checked α} {m : OrderedMap Json} {key : String} {j : Json}
    {value : α} (hget : m.get? key = some j) (hread : read j = accepted value) (default : α) :
    member m key default read = accepted value := by
  unfold member
  rw [hget]
  exact under_eq_accepted_iff.2 hread

/-- The value of a key is the one in front, else that behind. -/
theorem member_append {read : Json → Checked α} {kept : OrderedMap Json} {key : String} {j : Json}
    {value : α} (hkept : kept.get? key = some j) (hread : read j = accepted value)
    (changes : OrderedMap Json) (default : α) :
    member (changes ++ kept) key default read = member changes key value read := by
  have hget : (changes ++ kept).get? key = (changes.get? key).or (kept.get? key) := by
    simp [OrderedMap.get?, List.find?_append, Option.map_or]
  unfold member
  rw [hget, hkept]
  cases changes.get? key with
  | none => exact under_eq_accepted_iff.2 hread
  | some other => rfl

end Config

/-! ## Reading the settings anew -/

/-- Line styles have different names. -/
theorem LineStyle.name_inj {a b : LineStyle} : a.name.toList = b.name.toList ↔ a = b := by
  cases a <;> cases b <;> decide

/-- Themes have different names. -/
theorem Theme.name_inj {a b : Theme} : a.name.toList = b.name.toList ↔ a = b := by
  cases a <;> cases b <;> decide

namespace DisplaySettings

open Checked Config

variable {d e : DisplaySettings} {c : Conversions}

/-- **What conversions are relied on for**: each decides about every value, and the values that
settings are made of stand for themselves. -/
structure Conversions.IsLawful (c : Conversions) : Prop where
  /-- Every value is read as a whole number or refused with a problem. -/
  integer_isDecided : ∀ j, (c.integer j).IsDecided
  /-- Every value is read as a truth value or refused with a problem. -/
  flag_isDecided : ∀ j, (c.flag j).IsDecided
  /-- Every value is read as a theme or refused with a problem. -/
  theme_isDecided : ∀ j, (c.theme j).IsDecided
  /-- A whole number stands for itself. -/
  integer_int : ∀ n, c.integer (.int n) = accepted n
  /-- A truth value stands for itself. -/
  flag_bool : ∀ b, c.flag (.bool b) = accepted b
  /-- A theme is read from its name. -/
  theme_name : ∀ theme : Theme, c.theme (.text theme.name) = accepted theme

/-- **The conversions of configuration values are lawful.** -/
theorem Conversions.isLawful_standard : Conversions.standard.IsLawful where
  integer_isDecided := isDecided_integer
  flag_isDecided := isDecided_flag
  theme_isDecided := isDecided_choice _ _
  integer_int _ := rfl
  flag_bool _ := rfl
  theme_name theme := by cases theme <;> rfl

/-- The value of each key. -/
theorem get?_members (key : Text) : d.members.get? key =
    if "line_style".toList = key then some (.text d.lineStyle.name)
    else if "show_grid".toList = key then some (.bool d.showGrid)
    else if "grid_size".toList = key then some (.int d.gridSize)
    else if "theme".toList = key then some (.text d.theme.name) else none := by
  simp only [members, OrderedMap.get?_cons, OrderedMap.get?_nil]

/-- **The keys of a change** are those whose values differ. -/
theorem mem_changedKeys {key : Text} :
    key ∈ changedKeys d e ↔ d.members.get? key ≠ e.members.get? key := by
  have hkeys : key ∈ changedKeys d e ↔
      (¬ d.lineStyle = e.lineStyle ∧ "line_style".toList = key) ∨
        (¬ d.showGrid = e.showGrid ∧ "show_grid".toList = key) ∨
        (¬ d.gridSize = e.gridSize ∧ "grid_size".toList = key) ∨
        (¬ d.theme = e.theme ∧ "theme".toList = key) := by
    rw [changedKeys, Text.sort, List.mem_mergeSort, List.mem_filterMap]
    simp only [id, exists_eq_right, List.mem_cons, List.not_mem_nil, or_false,
      eq_comm (a := some key), Option.ite_none_left_eq_some, Option.some_inj]
  rw [hkeys, get?_members, get?_members]
  -- Only the value under the key itself can differ there, whichever of the four it is.
  by_cases hlineStyle : "line_style".toList = key
  · subst hlineStyle
    simp [LineStyle.name_inj]
  by_cases hshowGrid : "show_grid".toList = key
  · subst hshowGrid
    simp
  by_cases hgridSize : "grid_size".toList = key
  · subst hgridSize
    simp
  by_cases htheme : "theme".toList = key
  · subst htheme
    simp [Theme.name_inj]
  · simp only [hlineStyle, hshowGrid, hgridSize, htheme, and_false, or_false, if_false, ne_eq,
      not_true]

/-- Settings are the same if none of their values differ. -/
theorem changedKeys_eq_nil_iff : changedKeys d e = [] ↔ d = e := by
  constructor
  · intro h
    -- No key has changed, so each has the same value.
    have hsame : ∀ key, d.members.get? key = e.members.get? key := by
      intro key
      have hnone : key ∉ changedKeys d e := by simp [h]
      exact Classical.not_not.1 fun hne => hnone (mem_changedKeys.2 hne)
    obtain ⟨lineStyle, showGrid, gridSize, theme⟩ := d
    obtain ⟨lineStyle', showGrid', gridSize', theme'⟩ := e
    have hlineStyle : some (Json.text lineStyle.name) = some (.text lineStyle'.name) :=
      hsame "line_style".toList
    have hshowGrid : some (Json.bool showGrid) = some (.bool showGrid') := hsame "show_grid".toList
    have hgridSize : some (Json.int gridSize) = some (.int gridSize') := hsame "grid_size".toList
    have htheme : some (Json.text theme.name) = some (.text theme'.name) := hsame "theme".toList
    simp only [Option.some_inj, Json.text.injEq, Json.bool.injEq, Json.int.injEq,
      LineStyle.name_inj, Theme.name_inj] at hlineStyle hshowGrid hgridSize htheme
    rw [hlineStyle, hshowGrid, hgridSize, htheme]
  · rintro rfl
    exact List.eq_nil_iff_forall_not_mem.2 fun key hkey => mem_changedKeys.1 hkey rfl

/-- A line style is read from its name. -/
theorem readLineStyle_name (style : LineStyle) :
    readLineStyle (.text style.name) = accepted style := by
  cases style <;> rfl

/-- The size of a grid cell is read from itself when it is within its bounds. -/
theorem readGridSize_int (hc : c.IsLawful) (h : d.IsValid) :
    readGridSize c (.int d.gridSize) = accepted d.gridSize := by
  have hrule : (leastGrid ≤ d.gridSize && d.gridSize ≤ largestGrid : Bool) = true := by
    simpa using show leastGrid ≤ d.gridSize ∧ d.gridSize ≤ largestGrid from h
  simp [readGridSize, ruled, hc.integer_int, hrule]

/-- The check of settings comes to an end. -/
theorem isDecided_readMembers (hc : c.IsLawful) (base : DisplaySettings) (m : OrderedMap Json) :
    (readMembers c base m).IsDecided := by
  have hstart : (accepted mk).IsDecided := trivial
  refine IsDecided.apply (IsDecided.apply (IsDecided.apply (hstart.apply ?_) ?_) ?_) ?_
  · exact isDecided_member (fun j => isDecided_ofOption) m _ _
  · exact isDecided_member hc.flag_isDecided m _ _
  · exact isDecided_member (isDecided_ruled hc.integer_isDecided _ _) m _ _
  · exact isDecided_member hc.theme_isDecided m _ _

/-- **Valid settings are read from their own values**, whatever stands behind these. -/
theorem readWith_members_append (hc : c.IsLawful) (h : d.IsValid) (kept : OrderedMap Json) :
    readWith c (.object (d.members ++ kept)) = accepted d := by
  show readMembers c default (d.members ++ kept) = _
  unfold readMembers
  rw [member_eq_accepted rfl (readLineStyle_name d.lineStyle),
    member_eq_accepted rfl (hc.flag_bool d.showGrid),
    member_eq_accepted rfl (readGridSize_int hc h),
    member_eq_accepted rfl (hc.theme_name d.theme)]
  rfl

/-- **Changes of valid settings** are read like all the values that they make up. -/
theorem readWith_merged (hc : c.IsLawful) (h : d.IsValid) (changes : OrderedMap Json) :
    readWith c (.object (d.merged changes)) = readMembers c d changes := by
  show readMembers c default (changes ++ d.members) = _
  unfold readMembers
  rw [member_append rfl (readLineStyle_name d.lineStyle),
    member_append rfl (hc.flag_bool d.showGrid), member_append rfl (readGridSize_int hc h),
    member_append rfl (hc.theme_name d.theme)]

/-- The size of a grid cell that is read is within its bounds. -/
theorem isValid_of_readMembers {base : DisplaySettings} {m : OrderedMap Json} (hbase : base.IsValid)
    (h : readMembers c base m = accepted d) : d.IsValid := by
  -- Of the four values only the size of the grid cells has bounds, the third one that is read.
  obtain ⟨f, theme, hf, -, rfl⟩ := apply_eq_accepted_iff.1 h
  obtain ⟨g, gridSize, hg, hgrid, rfl⟩ := apply_eq_accepted_iff.1 hf
  obtain ⟨k, showGrid, hk, -, rfl⟩ := apply_eq_accepted_iff.1 hg
  obtain ⟨l, lineStyle, hl, -, rfl⟩ := apply_eq_accepted_iff.1 hk
  obtain rfl := accepted.inj hl
  show leastGrid ≤ gridSize ∧ gridSize ≤ largestGrid
  unfold member at hgrid
  split at hgrid
  next j _ =>
    have hrule := holds_of_ruled (under_eq_accepted_iff.1 hgrid)
    simpa using hrule
  next =>
    obtain rfl := accepted.inj hgrid
    exact hbase

/-- **Settings are valid** just if their own values are read as them. -/
theorem isValid_iff_readWith (hc : c.IsLawful) :
    d.IsValid ↔ readWith c (.object d.members) = accepted d := by
  constructor
  · intro h
    have hread := readWith_members_append hc h []
    rwa [List.append_nil] at hread
  · exact isValid_of_readMembers isValid_default

end DisplaySettings

/-! ## Updates -/

namespace SettingsStore

open DisplaySettings

variable {L : Type} {c : Conversions} {s : SettingsStore L} {changes : OrderedMap Json}

/-- **How an update is answered.** It is refused as a whole, or its values are read together with
those that it leaves as they are. -/
structure Answers (c : Conversions) (s : SettingsStore L) (changes : OrderedMap Json)
    (answer : Except Failure (Update L)) : Prop where
  /-- It is refused for a key that is no setting or for a value. -/
  refused : (∃ f, answer = .error f) ↔ (∃ key ∈ changes.keys, key ∉ DisplaySettings.keys) ∨
    ∃ problems, readWith c (.object (s.current.merged changes)) = .refused problems
  /-- Else the settings afterwards are those that are read. -/
  accepted : ∀ update, answer = .ok update →
    readWith c (.object (s.current.merged changes)) = .accepted update.store.current
  /-- Nothing is told just if no setting differs. -/
  silent : ∀ update, answer = .ok update → (update.change = none ↔
    ∀ key, s.current.members.get? key = update.store.current.members.get? key)
  /-- Then the store stays as it is and nobody is notified. -/
  untold : ∀ update, answer = .ok update → update.change = none →
    update.store = s ∧ update.notified = []
  /-- Else every listener hears of the change, in order. -/
  told : ∀ update, answer = .ok update → ∀ change, update.change = some change →
    change.previous = s.current ∧ change.current = update.store.current ∧ change.changed ≠ [] ∧
    update.store.listeners = s.listeners ∧ update.notified = s.listeners

/-- **What an update does** to a store. -/
theorem updateWith_eq (hc : c.IsLawful) (s : SettingsStore L) (changes : OrderedMap Json) :
    (∃ f, s.updateWith c changes = .error f ∧ ((∃ key ∈ changes.keys, key ∉ DisplaySettings.keys) ∨
      ∃ problems, readWith c (.object (s.current.merged changes)) = .refused problems)) ∨
    ∃ updated, (∀ key ∈ changes.keys, key ∈ DisplaySettings.keys) ∧
      readWith c (.object (s.current.merged changes)) = .accepted updated ∧ updated.IsValid ∧
      s.updateWith c changes = .ok (if updated = s.current then ⟨s, none, []⟩
        else ⟨{ s with current := updated }, some ⟨s.current, updated⟩, s.listeners⟩) := by
  have hmem : ∀ key,
      key ∈ Text.sort (changes.keys.filter fun key => !DisplaySettings.keys.contains key) ↔
        key ∈ changes.keys ∧ key ∉ DisplaySettings.keys := by
    intro key
    simp [Text.sort]
  unfold updateWith
  cases hunknown :
      Text.sort (changes.keys.filter fun key => !DisplaySettings.keys.contains key) with
  -- An unknown key is reported, and nothing else happens.
  | cons key others =>
    obtain ⟨hkey, hno⟩ := (hmem key).1 (hunknown ▸ List.mem_cons_self)
    exact .inl ⟨_, rfl, .inl ⟨key, hkey, hno⟩⟩
  -- With known keys only, the merged settings are accepted or refused as a whole.
  | nil =>
    have hknown : ∀ key ∈ changes.keys, key ∈ DisplaySettings.keys := by
      intro key hkey
      refine Classical.not_not.1 fun hno => ?_
      have hlisted := (hmem key).2 ⟨hkey, hno⟩
      rw [hunknown] at hlisted
      cases hlisted
    have hdecided : (readWith c (.object (s.current.merged changes))).IsDecided :=
      isDecided_readMembers hc default _
    obtain ⟨updated, hread⟩ | ⟨p, problems, hread⟩ := hdecided.cases
    · refine .inr ⟨updated, hknown, hread, isValid_of_readMembers isValid_default hread, ?_⟩
      dsimp only
      rw [hread]
      dsimp only
      split <;> rfl
    · dsimp only
      rw [hread]
      exact .inl ⟨_, rfl, .inr ⟨_, rfl⟩⟩

/-- **The answer to an update** of a store. -/
theorem answers_updateWith (hc : c.IsLawful) (s : SettingsStore L) (changes : OrderedMap Json) :
    s.Answers c changes (s.updateWith c changes) := by
  obtain ⟨f, hupdate, hwhy⟩ | ⟨updated, hknown, hread, -, hupdate⟩ := updateWith_eq hc s changes
  · rw [hupdate]
    refine ⟨⟨fun _ => hwhy, fun _ => ⟨f, rfl⟩⟩, ?_, ?_, ?_, ?_⟩
    all_goals
      intro update
      rintro ⟨⟩
  · rw [hupdate]
    have hrefused : ¬ ((∃ key ∈ changes.keys, key ∉ DisplaySettings.keys) ∨
        ∃ problems, readWith c (.object (s.current.merged changes)) = .refused problems) := by
      rintro (⟨key, hkey, hno⟩ | ⟨problems, hrefused⟩)
      · exact hno (hknown key hkey)
      · rw [hread] at hrefused
        cases hrefused
    -- What is read is told to the listeners unless it is what was there before.
    by_cases hsame : updated = s.current
    · subst hsame
      rw [if_pos rfl]
      refine ⟨⟨by rintro ⟨f, ⟨⟩⟩, fun h => absurd h hrefused⟩, ?_, ?_, ?_, ?_⟩
      · rintro _ ⟨⟩
        exact hread
      · rintro _ ⟨⟩
        exact ⟨fun _ _ => rfl, fun _ => rfl⟩
      · rintro _ ⟨⟩ -
        exact ⟨rfl, rfl⟩
      · rintro _ ⟨⟩ _ ⟨⟩
    · have hchanged : changedKeys s.current updated ≠ [] :=
        mt changedKeys_eq_nil_iff.1 (Ne.symm hsame)
      rw [if_neg hsame]
      refine ⟨⟨by rintro ⟨f, ⟨⟩⟩, fun h => absurd h hrefused⟩, ?_, ?_, ?_, ?_⟩
      · rintro _ ⟨⟩
        exact hread
      · rintro _ ⟨⟩
        refine ⟨nofun, fun h => absurd ?_ hchanged⟩
        exact List.eq_nil_iff_forall_not_mem.2 fun key hkey => mem_changedKeys.1 hkey (h key)
      · rintro _ ⟨⟩ ⟨⟩
      · rintro _ ⟨⟩ _ ⟨⟩
        exact ⟨rfl, rfl, hchanged, rfl, rfl⟩

/-- The settings stay valid. -/
theorem isValid_updateWith (hc : c.IsLawful) (hvalid : s.current.IsValid) {update : Update L}
    (h : s.updateWith c changes = .ok update) : update.store.current.IsValid := by
  obtain ⟨f, hupdate, -⟩ | ⟨updated, -, -, hupdated, hupdate⟩ := updateWith_eq hc s changes
  · rw [hupdate] at h
    cases h
  · rw [hupdate] at h
    obtain rfl := Except.ok.inj h
    split
    · exact hvalid
    · exact hupdated

/-- **The settings are restored** whatever they have come to. -/
theorem exists_resetWith (hc : c.IsLawful) (s : SettingsStore L) :
    ∃ update, s.resetWith c = .ok update ∧ update.store.current = default := by
  -- The defaults are written over all that was set, so they are what is read.
  have hread : readWith c (.object (s.current.merged default.members)) = .accepted default :=
    readWith_members_append hc isValid_default s.current.members
  obtain ⟨f, hupdate, hwhy⟩ | ⟨updated, -, hread', -, hupdate⟩ := updateWith_eq hc s default.members
  · -- The defaults have known keys, and they are not refused.
    obtain ⟨key, hkey, hno⟩ | ⟨problems, hrefused⟩ := hwhy
    · exact absurd hkey hno
    · rw [hread] at hrefused
      cases hrefused
  · obtain rfl : default = updated := Checked.accepted.inj (hread.symm.trans hread')
    by_cases hsame : default = s.current
    · refine ⟨_, hupdate, ?_⟩
      rw [if_pos hsame]
      exact hsame.symm
    · refine ⟨_, hupdate, ?_⟩
      rw [if_neg hsame]

end SettingsStore

/-! ## Runs -/

/-- **What is asked of a store.** -/
inductive StoreStep (L : Type) where
  /-- A listener comes. -/
  | subscribe (listener : L)
  /-- A listener goes. -/
  | unsubscribe (listener : L)
  /-- Some settings are to be changed. -/
  | update (changes : OrderedMap Json)
  /-- The settings are to be restored. -/
  | reset

/-- Whoever listens after a step, in the order in which they came. -/
def StoreStep.listeners {L : Type} [DecidableEq L] (listeners : List L) : StoreStep L → List L
  | subscribe listener => listeners ++ [listener]
  | unsubscribe listener => listeners.erase listener
  | update _ | reset => listeners

/-- **The changes lead from the first settings to the last ones**: each begins where the one before
it ends, and some setting differs. -/
def SettingsChange.Chain : DisplaySettings → List SettingsChange → DisplaySettings → Prop
  | first, [], last => first = last
  | first, e :: events, last => e.previous = first ∧ e.changed ≠ [] ∧ Chain e.current events last

/-- A chain goes on with a change that begins where it ends. -/
theorem SettingsChange.Chain.append {first last : DisplaySettings} {events : List SettingsChange}
    {e : SettingsChange} (h : Chain first events last) (hprevious : e.previous = last)
    (hchanged : e.changed ≠ []) : Chain first (events ++ [e]) e.current := by
  induction events generalizing first with
  | nil => exact ⟨hprevious.trans h.symm, hchanged, rfl⟩
  | cons head events ih => exact ⟨h.1, h.2.1, ih h.2.2⟩

/-- A store with what has come of it. -/
structure StoreHistory (L : Type) where
  /-- The store. -/
  store : SettingsStore L
  /-- All changes, in order. -/
  events : List SettingsChange
  /-- Who has heard of which change, in order. -/
  heard : List (L × SettingsChange)

namespace StoreHistory

open DisplaySettings (Conversions)

variable {L : Type}

/-- A store with which nothing has happened. -/
def start (initial : DisplaySettings) : StoreHistory L := ⟨.ofSettings initial, [], []⟩

/-- Whoever listens to a change that has been accepted hears of it. -/
def hearings (listeners : List L) (update : SettingsStore.Update L) : List (L × SettingsChange) :=
  update.change.toList.flatMap fun e => listeners.map fun listener => (listener, e)

/-- What comes of the answer to an update. One that is refused leaves everything as it is. -/
def answered (h : StoreHistory L) : Except Failure (SettingsStore.Update L) → StoreHistory L
  | .error _ => h
  | .ok update => ⟨update.store, h.events ++ update.change.toList,
      h.heard ++ hearings update.notified update⟩

variable [DecidableEq L] (c : Conversions)

/-- The store after a step. -/
def perform (h : StoreHistory L) : StoreStep L → StoreHistory L
  | .subscribe listener => { h with store := h.store.subscribe listener }
  | .unsubscribe listener => { h with store := h.store.unsubscribe listener }
  | .update changes => h.answered (h.store.updateWith c changes)
  | .reset => h.answered (h.store.resetWith c)

/-- The store after some steps. -/
def run (h : StoreHistory L) (steps : List (StoreStep L)) : StoreHistory L :=
  steps.foldl (perform c) h

/-! ### What every step keeps -/

/-- **What every step keeps**: the settings are valid, and the changes lead to them. -/
structure IsSound (initial : DisplaySettings) (h : StoreHistory L) : Prop where
  /-- The settings are valid. -/
  valid : h.store.current.IsValid
  /-- The changes lead to them. -/
  chain : SettingsChange.Chain initial h.events h.store.current

variable {c} {initial : DisplaySettings} {h : StoreHistory L} {changes : OrderedMap Json}

omit [DecidableEq L] in
/-- An update goes on with the chain, or everything stays as it is. -/
theorem IsSound.update (hc : c.IsLawful) (hsound : h.IsSound initial) (changes : OrderedMap Json) :
    (h.answered (h.store.updateWith c changes)).IsSound initial := by
  have hanswers := SettingsStore.answers_updateWith hc h.store changes
  cases hupdate : h.store.updateWith c changes with
  | error f => exact hsound
  | ok update =>
    refine ⟨SettingsStore.isValid_updateWith hc hsound.valid hupdate, ?_⟩
    show SettingsChange.Chain initial (h.events ++ update.change.toList) update.store.current
    cases hchange : update.change with
    -- Nothing has changed, so the chain is as long as before.
    | none =>
      rw [(hanswers.untold update hupdate hchange).1, Option.toList_none, List.append_nil]
      exact hsound.chain
    -- The change starts from the settings that the chain led to.
    | some e =>
      obtain ⟨hprevious, hcurrent, hchanged, -, -⟩ := hanswers.told update hupdate e hchange
      rw [← hcurrent]
      exact hsound.chain.append hprevious hchanged

/-- Every step keeps a store sound. -/
theorem IsSound.perform (hc : c.IsLawful) (hsound : h.IsSound initial) (step : StoreStep L) :
    (h.perform c step).IsSound initial := by
  cases step with
  | subscribe listener => exact ⟨hsound.valid, hsound.chain⟩
  | unsubscribe listener => exact ⟨hsound.valid, hsound.chain⟩
  | update changes => exact hsound.update hc changes
  | reset => exact hsound.update hc DisplaySettings.default.members

/-- Every run keeps a store sound. -/
theorem IsSound.run (hc : c.IsLawful) (hsound : h.IsSound initial) (steps : List (StoreStep L)) :
    (h.run c steps).IsSound initial := by
  induction steps generalizing h with
  | nil => exact hsound
  | cons step steps ih => exact ih (hsound.perform hc step)

omit [DecidableEq L] in
/-- **An update that is accepted** is heard of by every listener, in order, if there is a change. -/
theorem answered_ok (hc : c.IsLawful) {update : SettingsStore.Update L}
    (hupdate : h.store.updateWith c changes = .ok update) :
    h.answered (.ok update) = ⟨update.store, h.events ++ update.change.toList,
      h.heard ++ hearings h.store.listeners update⟩ := by
  rw [answered, hearings, hearings]
  cases hchange : update.change with
  | none => rfl
  | some e =>
    obtain ⟨-, -, -, -, hnotified⟩ :=
      (SettingsStore.answers_updateWith hc h.store changes).told update hupdate e hchange
    rw [hnotified]

omit [DecidableEq L] in
/-- An update leaves the listeners as they are. -/
theorem listeners_answered (hc : c.IsLawful) (changes : OrderedMap Json) :
    (h.answered (h.store.updateWith c changes)).store.listeners = h.store.listeners := by
  have hanswers := SettingsStore.answers_updateWith hc h.store changes
  cases hupdate : h.store.updateWith c changes with
  | error f => rfl
  | ok update =>
    show update.store.listeners = h.store.listeners
    cases hchange : update.change with
    | none => rw [(hanswers.untold update hupdate hchange).1]
    | some e => exact (hanswers.told update hupdate e hchange).2.2.2.1

/-- Whoever listens after a run has come and not gone since. -/
theorem listeners_run (hc : c.IsLawful) (h : StoreHistory L) (steps : List (StoreStep L)) :
    (h.run c steps).store.listeners = steps.foldl StoreStep.listeners h.store.listeners := by
  induction steps generalizing h with
  | nil => rfl
  | cons step steps ih =>
    refine (ih (h.perform c step)).trans ?_
    rw [List.foldl_cons]
    congr 1
    cases step with
    | subscribe listener => rfl
    | unsubscribe listener => rfl
    | update changes => exact listeners_answered hc changes
    | reset => exact listeners_answered hc DisplaySettings.default.members

/-! ### What holds after a run -/

/-- **What holds of a store** that began with the settings `initial` and to which `present`
listen. -/
structure IsWellKept (c : Conversions) (initial : DisplaySettings) (present : List L)
    (h : StoreHistory L) : Prop where
  /-- The settings pass their own check. -/
  checked : DisplaySettings.readWith c (.object h.store.current.members) = .accepted h.store.current
  /-- The changes lead from the first settings to those of the store. -/
  chain : SettingsChange.Chain initial h.events h.store.current
  /-- Each change is about exactly the keys whose values differ. -/
  changed : ∀ e : SettingsChange, ∀ key,
    key ∈ e.changed ↔ e.previous.members.get? key ≠ e.current.members.get? key
  /-- The listeners stand in the order in which they came. -/
  listeners : h.store.listeners = present
  /-- Every further update is answered as it should be. -/
  answers : ∀ changes, h.store.Answers c changes (h.store.updateWith c changes)
  /-- Its values are read in place of those of the settings; the others stay as they are. -/
  kept : ∀ changes, DisplaySettings.readWith c (.object (h.store.current.merged changes))
    = DisplaySettings.readMembers c h.store.current changes
  /-- One that is refused leaves everything as it is. -/
  refused : ∀ changes f, h.store.updateWith c changes = .error f → h.perform c (.update changes) = h
  /-- Of one that is accepted every listener hears, in order, if there is a change. -/
  accepted : ∀ changes update, h.store.updateWith c changes = .ok update →
    h.perform c (.update changes) = ⟨update.store, h.events ++ update.change.toList,
      h.heard ++ hearings present update⟩
  /-- The settings are restored by an update with the default values. -/
  reset : h.perform c .reset = h.perform c (.update DisplaySettings.default.members)
  /-- That is never refused. -/
  restored : ∃ update, h.store.resetWith c = .ok update ∧ update.store.current = .default

/-- **After every run the settings are valid, and the changes form a chain.** The settings pass
their own check; the changes lead from the first settings to them, and each is about exactly what
differs. Every further update is answered as it should be: a refused one leaves everything as it is,
and of an accepted one every listener hears, in the order in which they came, just if there is a
change. -/
theorem chain_run (hc : c.IsLawful) (hvalid : initial.IsValid) (steps : List (StoreStep L)) :
    ((start initial).run c steps).IsWellKept c initial (steps.foldl StoreStep.listeners []) := by
  -- A store starts with an empty chain.
  have hstart : (start initial : StoreHistory L).IsSound initial := ⟨hvalid, rfl⟩
  have hsound := hstart.run hc steps
  have hlisteners : ((start initial).run c steps).store.listeners
      = steps.foldl StoreStep.listeners [] := listeners_run hc (start initial) steps
  refine {
    checked := (DisplaySettings.isValid_iff_readWith hc).1 hsound.valid
    chain := hsound.chain
    changed := fun e key => DisplaySettings.mem_changedKeys
    listeners := hlisteners
    answers := SettingsStore.answers_updateWith hc _
    kept := DisplaySettings.readWith_merged hc hsound.valid
    refused := fun changes f hupdate => ?_
    accepted := fun changes update hupdate => ?_
    reset := rfl
    restored := SettingsStore.exists_resetWith hc _ }
  · -- What is refused leaves the history as it was.
    rw [perform, hupdate]
    rfl
  · -- What is accepted is told to the listeners that the steps have left.
    rw [perform, hupdate, answered_ok hc hupdate, hlisteners]

/-- A grid that is too fine is refused between two changes of the theme. -/
theorem chain_run_refused : Conversions.standard.IsLawful ∧ DisplaySettings.default.IsValid ∧
    let steps : List (StoreStep Nat) := [.subscribe 1, .update [("theme".toList, .text "dark")],
      .update [("grid_size".toList, .int 3)], .subscribe 2,
      .update [("theme".toList, .text "dark")], .reset]
    let dark : DisplaySettings := ⟨.curve, true, 20, .dark⟩
    let after := (start .default).run .standard steps
    SettingsChange.Chain .default after.events after.store.current ∧
      after.store.listeners = [1, 2] ∧
      after.heard = [(1, ⟨.default, dark⟩), (1, ⟨dark, .default⟩), (2, ⟨dark, .default⟩)] := by
  have hkept := chain_run Conversions.isLawful_standard DisplaySettings.isValid_default
    [.subscribe 1, .update [("theme".toList, .text "dark")],
      .update [("grid_size".toList, .int 3)], .subscribe 2,
      .update [("theme".toList, .text "dark")], .reset]
  exact ⟨Conversions.isLawful_standard, DisplaySettings.isValid_default, hkept.chain,
    hkept.listeners, by decide +kernel⟩

end StoreHistory

end SchemaDiagram
