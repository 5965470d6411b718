import Mathlib
import Sift.Proofs.EntryOrder
import Sift.Proofs.Outcome

set_option autoImplicit false
set_option relaxedAutoImplicit false

/-!
# Layered settings

The settings of a service are told from the layers that they are loaded from, without merging them.
There are no settings for want of a readable file iff one of the files that are looked at is no
TOML, whatever the others say. Otherwise each setting is what the last layer gives it that has it;
for the settings of a section only the layers count that come after the section was last something
other than a table. What a layer gives that a later one replaces does no harm.

There is one exception: a section that ends up as an array gives its settings in their order.

The entries of a layer are not taken in any order that could be relied on. So this is about layers
whose entries lead apart from one another, and for such layers every order gives the same settings.

## Main definitions

* `Sift.Config.Unreadable` — the file of a layer is no TOML.
* `Sift.Config.HasSection` — the last layer that has a section makes it a table or an array.
* `Sift.Config.following` — the layers after the last one that makes a section no table.
* `Sift.Config.partFrom?` — what layers give a setting of a section together.
* `Sift.EngineSettings.TakenFrom`, `Sift.LogSettings.TakenFrom` — the settings of a section.

## Main results

* `Sift.Config.section_eq_ok_iff` — the settings of a section.
* `Sift.Settings.load_takes_last_layers` — when there are settings, and which ones.
-/

namespace Sift

namespace Config

/-! ## Members -/

/-- A value can be a section: it is a table or an array. -/
def Value.IsSection : Value → Prop
  | table _ | array _ => True
  | _ => False

/-- The value of a member of a section: the one of its name in a table, and the one at its place in
an array. -/
def Value.memberOf? (names : List String) (key : String) : Value → Option Value
  | array elements => elements[names.idxOf key]?
  | v => v.entries.lookup key

lemma Value.isSection_outline (v : Value) : v.outline.IsSection ↔ v.IsSection := by
  cases v <;> rfl

/-- A value is an array. -/
def Value.isArray : Value → Bool
  | array _ => true
  | _ => false

lemma Value.isArray_outline (v : Value) : v.outline.isArray = v.isArray := by
  cases v <;> rfl

lemma Value.memberOf_eq (names : List String) (key : String) (v : Value) :
    v.memberOf? names key =
      if v.isArray then v.elements[names.idxOf key]? else v.entries.lookup key := by
  cases v <;> rfl

lemma Value.exists_parts_iff (names : List String) (v : Value) :
    (∃ parts, v.parts names = .ok parts) ↔ v.IsSection := by
  cases v with
  | table entries => exact ⟨fun _ => trivial, fun _ => ⟨entries, rfl⟩⟩
  | array elements => exact ⟨fun _ => trivial, fun _ => ⟨names.zip elements, rfl⟩⟩
  | _ => exact ⟨nofun, False.elim⟩

/-- **The value of a member**: what stands for it is decoded, and the default holds where nothing
does. -/
lemma Value.part_eq_ok_iff {α : Type} {names : List String} {v : Value} {parts : Table}
    (hparts : v.parts names = .ok parts) {key : String} (hkey : key ∈ names)
    (decode : Value → Except Problem α) (default a : α) :
    part parts key decode default = .ok a ↔
      (v.memberOf? names key).elim (.ok default) decode = .ok a := by
  have hlookup : parts.lookup key = v.memberOf? names key := by
    cases v with
    | table entries =>
      obtain rfl := Except.ok.inj hparts
      rfl
    | array elements =>
      obtain rfl := Except.ok.inj hparts
      exact lookup_zip names elements hkey
    | _ => exact nomatch hparts
  rw [part, hlookup]
  cases v.memberOf? names key <;> rfl

/-- Values of one outline are decoded alike if decoding reads no more than that. -/
lemma elim_congr {α : Type} {decode : Value → Except Problem α}
    (hdecode : ∀ v : Value, decode v.outline = decode v) {v w : Option Value}
    (h : v.map Value.outline = w.map Value.outline) (default : Except Problem α) :
    v.elim default decode = w.elim default decode := by
  have houtline (v : Option Value) :
      (v.map Value.outline).elim default decode = v.elim default decode := by
    cases v with
    | none => rfl
    | some v => exact hdecode v
  rw [← houtline v, h, houtline w]

end Config

open Config

/-! ## Sections -/

namespace EngineSettings

/-- The members of the engine settings. -/
def memberNames : List String :=
  ["trace_enabled", "warn_on_invalid_rules"]

/-- The engine settings are what is given for each of them, or else their defaults. -/
def TakenFrom (given? : String → Option Value) (s : EngineSettings) : Prop :=
  let default : EngineSettings := {}
  (given? "trace_enabled").elim (.ok default.traceEnabled) Value.toBool = .ok s.traceEnabled ∧
    (given? "warn_on_invalid_rules").elim (.ok default.warnOnInvalidRules) Value.toBool =
      .ok s.warnOnInvalidRules

lemma ofValue_eq_ok_iff (v : Value) (s : EngineSettings) :
    ofValue v = .ok s ↔ v.IsSection ∧ s.TakenFrom (v.memberOf? memberNames) := by
  simp only [ofValue, bind_eq_ok_iff, pure_eq_ok_iff, TakenFrom]
  constructor
  · rintro ⟨parts, hparts, trace, htrace, warn, hwarn, rfl⟩
    exact ⟨(v.exists_parts_iff _).1 ⟨parts, hparts⟩,
      (Value.part_eq_ok_iff hparts (by decide) _ _ _).1 htrace,
      (Value.part_eq_ok_iff hparts (by decide) _ _ _).1 hwarn⟩
  · rintro ⟨hsection, htrace, hwarn⟩
    obtain ⟨parts, hparts⟩ := (v.exists_parts_iff memberNames).2 hsection
    exact ⟨parts, hparts, _, (Value.part_eq_ok_iff hparts (by decide) _ _ _).2 htrace,
      _, (Value.part_eq_ok_iff hparts (by decide) _ _ _).2 hwarn, rfl⟩

end EngineSettings

namespace LogSettings

/-- The members of the log settings. -/
def memberNames : List String :=
  ["log_level", "json_logs"]

/-- The log settings are what is given for each of them, or else their defaults. -/
def TakenFrom (given? : String → Option Value) (s : LogSettings) : Prop :=
  let default : LogSettings := {}
  (given? "log_level").elim (.ok default.logLevel) Value.toText = .ok s.logLevel ∧
    (given? "json_logs").elim (.ok default.jsonLogs) Value.toBool = .ok s.jsonLogs

lemma ofValue_eq_ok_iff (v : Value) (s : LogSettings) :
    ofValue v = .ok s ↔ v.IsSection ∧ s.TakenFrom (v.memberOf? memberNames) := by
  simp only [ofValue, bind_eq_ok_iff, pure_eq_ok_iff, TakenFrom]
  constructor
  · rintro ⟨parts, hparts, level, hlevel, json, hjson, rfl⟩
    exact ⟨(v.exists_parts_iff _).1 ⟨parts, hparts⟩,
      (Value.part_eq_ok_iff hparts (by decide) _ _ _).1 hlevel,
      (Value.part_eq_ok_iff hparts (by decide) _ _ _).1 hjson⟩
  · rintro ⟨hsection, hlevel, hjson⟩
    obtain ⟨parts, hparts⟩ := (v.exists_parts_iff memberNames).2 hsection
    exact ⟨parts, hparts, _, (Value.part_eq_ok_iff hparts (by decide) _ _ _).2 hlevel,
      _, (Value.part_eq_ok_iff hparts (by decide) _ _ _).2 hjson, rfl⟩

end LogSettings

namespace Settings

/-- The members of the settings. -/
def memberNames : List String :=
  ["service_name", "environment", "engine", "observability"]

lemma ofValue_eq_ok_iff (entries : Table) (s : Settings) :
    ofValue (.table entries) = .ok s ↔
      (entries.lookup "service_name").elim (.ok ({} : Settings).serviceName) Value.toText =
          .ok s.serviceName ∧
        (entries.lookup "environment").elim (.ok ({} : Settings).environment) Value.toText =
          .ok s.environment ∧
        (entries.lookup "engine").elim (.ok {}) EngineSettings.ofValue = .ok s.engine ∧
        (entries.lookup "observability").elim (.ok {}) LogSettings.ofValue =
          .ok s.observability := by
  have hparts : (Value.table entries).parts memberNames = .ok entries := rfl
  simp only [ofValue, bind_eq_ok_iff, pure_eq_ok_iff]
  constructor
  · rintro ⟨_, hentries, service, hservice, environment, henvironment, engine, hengine,
      observability, hobservability, rfl⟩
    obtain rfl := Except.ok.inj hentries
    exact ⟨(Value.part_eq_ok_iff hparts (by decide) _ _ _).1 hservice,
      (Value.part_eq_ok_iff hparts (by decide) _ _ _).1 henvironment,
      (Value.part_eq_ok_iff hparts (by decide) _ _ _).1 hengine,
      (Value.part_eq_ok_iff hparts (by decide) _ _ _).1 hobservability⟩
  · rintro ⟨hservice, henvironment, hengine, hobservability⟩
    exact ⟨entries, hparts,
      _, (Value.part_eq_ok_iff hparts (by decide) _ _ _).2 hservice,
      _, (Value.part_eq_ok_iff hparts (by decide) _ _ _).2 henvironment,
      _, (Value.part_eq_ok_iff hparts (by decide) _ _ _).2 hengine,
      _, (Value.part_eq_ok_iff hparts (by decide) _ _ _).2 hobservability, rfl⟩

end Settings

/-! ## Settings from layers -/

namespace Config

/-- The last layer that has a section makes it a table or an array, or no layer has it. -/
def HasSection (name : String) (layers : List Table) : Prop :=
  ∀ v ∈ last? (setting? name) layers, v.IsSection

/-- What layers give a setting of a section together, of which some bear on the settings: where the
section ends up as an array, the element at the place of the setting, and otherwise what the last
bearing layer gives that has the setting. -/
def partFrom? (bearing : List Table) (names : List String) (name : String) (layers : List Table)
    (key : String) : Option Value :=
  match setting? name layers.flatten with
  | some (.array elements) => elements[names.idxOf key]?
  | _ => last? (sectionSetting? name key) bearing

/-- What layers give a setting of a section together, if the standing ones bear on it. -/
def sectionPart? (names : List String) (name : String) (layers : List Table) :
    String → Option Value :=
  partFrom? (standing name layers) names name layers

/-- A setting of its own is told by the last layer that has it, or else by the arguments. -/
lemma elim_lookup_merged {α : Type} {decode : Value → Except Problem α}
    (hdecode : ∀ v : Value, decode v.outline = decode v) (name : String) (layers : List Table)
    (service environment : String) (default : Except Problem α) :
    ((merged layers service environment).entries.lookup name).elim default decode =
      (last? (setting? name) layers).elim
        (((arguments service environment).lookup name).elim default decode) decode := by
  rw [lookup_merged, ← elim_congr hdecode (setting_flatten name layers)]
  cases setting? name layers.flatten with
  | none => rfl
  | some v =>
    rw [Option.map_some, Option.some_or, Option.elim_some, Option.elim_some, ← hdecode,
      Value.outline_merge, hdecode]

lemma forall_isSection_outline (v : Option Value) :
    (∀ w ∈ v.map Value.outline, w.IsSection) ↔ ∀ w ∈ v, w.IsSection := by
  cases v with
  | none => exact ⟨fun _ => nofun, fun _ => nofun⟩
  | some v => simp [Value.isSection_outline]

lemma hasSection_iff (name : String) (layers : List Table) :
    HasSection name layers ↔ ∀ v ∈ setting? name layers.flatten, v.IsSection := by
  rw [HasSection, ← forall_isSection_outline, ← setting_flatten, forall_isSection_outline]

/-- The members of a section in which all layers are merged. -/
lemma outline_memberOf_merge (names : List String) {name : String} {layers : List Table} {v : Value}
    (hv : setting? name layers.flatten = some v) (key : String) :
    ((v.merge none).memberOf? names key).map Value.outline =
      (sectionPart? names name layers key).map Value.outline := by
  have hlast : (v.entries.lookup key).map Value.outline =
      (last? (sectionSetting? name key) (standing name layers)).map Value.outline := by
    rw [← sectionSetting_flatten, sectionSetting?, hv]
    rfl
  rw [sectionPart?, partFrom?, hv]
  cases v with
  | table entries =>
    have honce : NamesOnce entries := namesOnce_of_setting hv
    have hmember : ((Value.table entries).merge none).memberOf? names key =
        (Value.mergeEntries entries []).lookup key := by
      rw [Value.merge]
      rfl
    rw [← hlast, hmember, lookup_mergeEntries_of_namesOnce key honce, List.lookup_nil,
      Option.or_none, Option.map_map]
    simp only [Function.comp_def, Value.outline_merge]
    rfl
  | array elements => rfl
  | _ => exact hlast

/-- **A section from layers**: where the layers are merged, a section that is read member by member
gives what its settings give, which can be told from the layers themselves. -/
theorem section_eq_ok_iff {α : Type} {decode : Value → Except Problem α} {default : α}
    {TakenFrom : (String → Option Value) → α → Prop} {names : List String}
    (hdecode : ∀ v a, decode v = .ok a ↔ v.IsSection ∧ TakenFrom (v.memberOf? names) a)
    (hdefault : ∀ a, TakenFrom (fun _ => none) a ↔ default = a)
    (hcongr : ∀ given? given'? : String → Option Value,
      (∀ key, (given? key).map Value.outline = (given'? key).map Value.outline) →
        TakenFrom given? = TakenFrom given'?)
    {name service environment : String} (hname : (arguments service environment).lookup name = none)
    (layers : List Table) (a : α) :
    ((merged layers service environment).entries.lookup name).elim (.ok default) decode = .ok a ↔
      HasSection name layers ∧ TakenFrom (sectionPart? names name layers) a := by
  rw [lookup_merged, hname, Option.or_none, hasSection_iff]
  cases hv : setting? name layers.flatten with
  | none =>
    have hnone (key : String) : (none : Option Value).map Value.outline =
        (sectionPart? names name layers key).map Value.outline := by
      rw [sectionPart?, partFrom?, hv, ← sectionSetting_flatten, sectionSetting?, hv]
      rfl
    rw [Option.map_none, Option.elim_none, Except.ok.injEq, ← hdefault,
      hcongr (fun _ => none) _ hnone]
    exact (and_iff_right fun v h => absurd h (Option.not_mem_none v)).symm
  | some v =>
    rw [Option.map_some, Option.elim_some, hdecode,
      hcongr _ _ (outline_memberOf_merge names hv), ← Value.isSection_outline, Value.outline_merge,
      Value.isSection_outline]
    refine and_congr_left fun _ => ⟨fun h w hw => ?_, fun h => h v rfl⟩
    obtain rfl := Option.some.inj hw
    exact h

end Config

lemma EngineSettings.takenFrom_none (s : EngineSettings) :
    s.TakenFrom (fun _ => none) ↔ {} = s := by
  obtain ⟨trace, warn⟩ := s
  simp only [TakenFrom, Option.elim_none, Except.ok.injEq, EngineSettings.mk.injEq]

lemma EngineSettings.takenFrom_congr (given? given'? : String → Option Value)
    (h : ∀ key, (given? key).map Value.outline = (given'? key).map Value.outline) :
    TakenFrom given? = TakenFrom given'? := by
  funext s
  simp only [TakenFrom, elim_congr Value.toBool_outline (h _)]

lemma LogSettings.takenFrom_none (s : LogSettings) : s.TakenFrom (fun _ => none) ↔ {} = s := by
  obtain ⟨level, json⟩ := s
  simp only [TakenFrom, Option.elim_none, Except.ok.injEq, LogSettings.mk.injEq]

lemma LogSettings.takenFrom_congr (given? given'? : String → Option Value)
    (h : ∀ key, (given? key).map Value.outline = (given'? key).map Value.outline) :
    TakenFrom given? = TakenFrom given'? := by
  funext s
  simp only [TakenFrom, elim_congr Value.toBool_outline (h _),
    elim_congr Value.toText_outline (h _)]

/-! ## Files -/

namespace Config

/-- The file of a layer is no TOML. -/
def Unreadable (files : List (String × String)) (layer : String) : Prop :=
  ∃ text, fileText? files layer = some text ∧ Toml.read? text = none

variable (files vars : List (String × String)) (service environment : String)

lemma fileLayer_eq_error_iff (layer : String) (problem : Problem) :
    fileLayer files layer = .error problem ↔
      Unreadable files layer ∧ problem = .unreadableFile := by
  unfold fileLayer Unreadable
  cases fileText? files layer with
  | none => simp
  | some text => cases h : Toml.read? text <;> simp [h, eq_comm]

/-- The layers can be read iff each file can. -/
lemma exists_layers_iff :
    (∃ ls, layers files vars service environment = .ok ls) ↔
      ∀ layer ∈ ["default", environment, service], ¬Unreadable files layer := by
  have hfile (layer : String) :
      (∃ t, fileLayer files layer = .ok t) ↔ ¬Unreadable files layer := by
    cases hlayer : fileLayer files layer with
    | ok t =>
      refine iff_of_true ⟨t, rfl⟩ fun h => ?_
      have herror := (fileLayer_eq_error_iff files layer .unreadableFile).2 ⟨h, rfl⟩
      exact nomatch hlayer.symm.trans herror
    | error problem =>
      exact iff_of_false nofun (not_not_intro ((fileLayer_eq_error_iff files layer _).1 hlayer).1)
  simp only [← hfile, ← exists_mapM_eq_ok_iff, layers, bind_eq_ok_iff, pure_eq_ok_iff]
  constructor
  · rintro ⟨_, ts, hts, -⟩
    exact ⟨ts, hts⟩
  · rintro ⟨ts, hts⟩
    exact ⟨_, ts, hts, rfl⟩

lemma faultsAre_layers :
    FaultsAre (· = .unreadableFile) (layers files vars service environment) := by
  refine .bind (.mapM fun layer _ problem h => ?_) fun ts _ => .ok _
  exact ((fileLayer_eq_error_iff files layer problem).1 h).2

/-! Everything else goes wrong in other ways. -/

lemma faultsAre_part {α : Type} {p : Problem → Prop} {decode : Value → Except Problem α}
    (h : ∀ v, FaultsAre p (decode v)) (parts : Table) (name : String) (default : α) :
    FaultsAre p (part parts name decode default) := by
  rw [part]
  split
  · next v _ => exact h v
  · exact .ok default

lemma Value.faultsAre_parts (names : List String) (v : Value) :
    FaultsAre (· ≠ .unreadableFile) (v.parts names) := by
  cases v with
  | table _ | array _ => exact .ok _
  | _ => exact .error nofun

lemma Value.faultsAre_toBool (v : Value) : FaultsAre (· ≠ .unreadableFile) v.toBool := by
  cases v with
  | bool _ | integer _ | float _ => exact .ok _
  | text s =>
    rw [toBool]
    -- the words for true, the words for false, and all others
    split
    iterate 8 exact .ok _
    exact .error nofun
  | absent | array _ | table _ => exact .error nofun

lemma Value.faultsAre_toText (v : Value) : FaultsAre (· ≠ .unreadableFile) v.toText := by
  cases v with
  | text _ | bool _ | integer _ | float _ => exact .ok _
  | absent | array _ | table _ => exact .error nofun

end Config

lemma EngineSettings.faultsAre_ofValue (v : Value) :
    FaultsAre (· ≠ .unreadableFile) (ofValue v) := by
  unfold ofValue
  refine (v.faultsAre_parts _).bind fun parts _ => ?_
  refine (faultsAre_part Value.faultsAre_toBool parts _ _).bind fun trace _ => ?_
  refine (faultsAre_part Value.faultsAre_toBool parts _ _).bind fun warn _ => ?_
  exact .ok _

lemma LogSettings.faultsAre_ofValue (v : Value) :
    FaultsAre (· ≠ .unreadableFile) (ofValue v) := by
  unfold ofValue
  refine (v.faultsAre_parts _).bind fun parts _ => ?_
  refine (faultsAre_part Value.faultsAre_toText parts _ _).bind fun level _ => ?_
  refine (faultsAre_part Value.faultsAre_toBool parts _ _).bind fun json _ => ?_
  exact .ok _

lemma Settings.faultsAre_ofValue (v : Value) :
    FaultsAre (· ≠ .unreadableFile) (ofValue v) := by
  unfold ofValue
  refine (v.faultsAre_parts _).bind fun parts _ => ?_
  refine (faultsAre_part Value.faultsAre_toText parts _ _).bind fun service _ => ?_
  refine (faultsAre_part Value.faultsAre_toText parts _ _).bind fun environment _ => ?_
  refine (faultsAre_part EngineSettings.faultsAre_ofValue parts _ _).bind fun engine _ => ?_
  refine (faultsAre_part LogSettings.faultsAre_ofValue parts _ _).bind fun observability _ => ?_
  exact .ok _

/-! ## Layers after a replacement -/

namespace Config

/-- A value is something other than a table. -/
def Value.isOther : Value → Bool
  | table _ => false
  | _ => true

/-- A layer makes a section something other than a table. -/
def replaced (name : String) (layer : Table) : Bool :=
  (setting? name layer).any Value.isOther

/-- The layers after the last one that makes a section something other than a table, or all of them
if none does. -/
def following (name : String) (layers : List Table) : List Table :=
  layers.rtakeWhile fun layer => !replaced name layer

lemma following_concat (name : String) (layers : List Table) (layer : Table) :
    following name (layers ++ [layer]) =
      if replaced name layer then [] else following name layers ++ [layer] := by
  rw [following, List.rtakeWhile_concat]
  by_cases h : replaced name layer = true
  · rw [if_pos h, if_neg (by simp [h])]
  · rw [if_neg h, if_pos (by simp [h]), following]

/-- What a write makes of anything is no table iff the write replaces it. -/
lemma Value.isOther_assign (w : Write) (v : Option Value) :
    (assign w.1 w.2 v).isOther = replaces w := by
  obtain ⟨path, value⟩ := w
  match path with
  | [] => cases value <;> simp only [assign, merge, isOther, replaces]
  | .key _ :: _ => rfl
  | .index _ :: _ => simp only [assign, isOther, replaces]

/-- Writes that lead apart replace what they are for alike. -/
lemma replaces_eq_of_apart {w w' : Write} (h : Apart w.1 w'.1) : replaces w = replaces w' := by
  obtain ⟨path, value⟩ := w
  obtain ⟨path', value'⟩ := w'
  match path, path', h with
  | .key _ :: _, .key _ :: _, _ => rfl
  | .index _ :: _, .index _ :: _, _ => rfl

/-- An unambiguous layer breaks a section iff it leaves it something other than a table. -/
lemma Unambiguous.replaced_eq_breaks {layer : Table} (h : Unambiguous layer) (name : String) :
    replaced name layer = breaks name layer := by
  have hapart := h.pairwise_writes name
  rw [replaced, breaks, setting_eq_written]
  rcases List.eq_nil_or_concat (writes name layer) with hnil | ⟨ws, w, hconcat⟩
  · rw [hnil]
    rfl
  · rw [hconcat, List.concat_eq_append] at hapart ⊢
    obtain ⟨-, -, hbeside⟩ := List.pairwise_append.1 hapart
    have halike : ∀ w' ∈ ws, replaces w' = replaces w := fun w' hw' =>
      replaces_eq_of_apart (hbeside w' hw' w (List.mem_singleton_self w))
    rw [written_concat, Option.any_some, Value.isOther_assign, List.any_append, List.any_cons,
      List.any_nil, Bool.or_false]
    cases hw : replaces w with
    | true => rw [Bool.or_true]
    | false =>
      rw [Bool.or_false, eq_comm, List.any_eq_false]
      exact fun w' hw' => by simp [halike w' hw', hw]

/-- **The last layer after a replacement decides** where layers are unambiguous: the last standing
one gives nothing but what it has been replaced by. -/
theorem last_following {layers : List Table} (hclear : ∀ layer ∈ layers, Unambiguous layer)
    (name key : String) :
    last? (sectionSetting? name key) (following name layers) =
      last? (sectionSetting? name key) (standing name layers) := by
  induction layers using List.reverseRecOn with
  | nil => rfl
  | append_singleton layers layer ih =>
    rw [List.forall_mem_append, List.forall_mem_singleton] at hclear
    obtain ⟨hearlier, hlayer⟩ := hclear
    rw [following_concat, standing_concat, ← hlayer.replaced_eq_breaks]
    by_cases hreplaced : replaced name layer = true
    · have hnone : sectionSetting? name key layer = none := by
        rw [replaced] at hreplaced
        rw [sectionSetting?]
        -- what is no table has no entries
        cases hsetting : setting? name layer with
        | none => rfl
        | some v =>
          rw [hsetting] at hreplaced
          cases v with
          | table entries => exact absurd hreplaced Bool.false_ne_true
          | _ => rfl
      rw [if_pos hreplaced, if_pos hreplaced, last_singleton, hnone]
      rfl
    · rw [if_neg hreplaced, if_neg hreplaced, last_concat, last_concat, ih hearlier]

lemma partFrom_following {layers : List Table} (hclear : ∀ layer ∈ layers, Unambiguous layer)
    (names : List String) (name : String) :
    partFrom? (following name layers) names name layers = sectionPart? names name layers := by
  funext key
  rw [sectionPart?, partFrom?, partFrom?, last_following hclear]

/-! ## Layers in another order -/

/-- What layers give a setting of a section is, up to its outline, told by what they give the
section together. -/
lemma outline_sectionPart (names : List String) (name : String) (layers : List Table)
    (key : String) :
    (sectionPart? names name layers key).map Value.outline =
      ((setting? name layers.flatten).bind (·.memberOf? names key)).map Value.outline := by
  have hlast := sectionSetting_flatten name key layers
  rw [sectionSetting?] at hlast
  rw [sectionPart?, partFrom?]
  cases hv : setting? name layers.flatten with
  | none =>
    rw [hv] at hlast
    exact hlast.symm
  | some v =>
    rw [hv] at hlast
    cases v with
    | array _ => rfl
    | _ => exact hlast.symm

section Order

variable {layers taken : List Table} (hperm : List.Forall₂ List.Perm layers taken)
  (hclear : ∀ layer ∈ layers, Unambiguous layer)

include hperm hclear

/-- The last layer gives a setting of one outline, whatever the order of entries is. -/
lemma outline_last_setting_of_perm (name : String) :
    (last? (setting? name) layers).map Value.outline =
      (last? (setting? name) taken).map Value.outline := by
  rw [← setting_flatten, ← setting_flatten]
  exact (alike_setting_of_perm hperm hclear name).map_outline

lemma hasSection_of_perm (name : String) : HasSection name layers ↔ HasSection name taken := by
  rw [HasSection, HasSection, ← forall_isSection_outline, outline_last_setting_of_perm hperm hclear,
    forall_isSection_outline]

/-- The settings of a section have the same outlines, whatever the order of entries is. -/
lemma outline_sectionPart_of_perm (names : List String) (name key : String) :
    (sectionPart? names name layers key).map Value.outline =
      (sectionPart? names name taken key).map Value.outline := by
  have halike := alike_setting_of_perm hperm hclear name
  rw [outline_sectionPart, outline_sectionPart]
  cases hv : setting? name layers.flatten with
  | none =>
    rw [hv] at halike
    rw [Option.isSome_eq_false_iff.1 halike.isSome_eq.symm |> Option.isNone_iff_eq_none.1]
  | some v =>
    rw [hv] at halike
    obtain ⟨w, hw⟩ := Option.isSome_iff_exists.1 halike.isSome_eq.symm
    rw [hw] at halike
    have harray : v.isArray = w.isArray := by
      rw [← v.isArray_outline, ← w.isArray_outline, Option.some.inj halike.map_outline]
    rw [hw, Option.bind_some, Option.bind_some, Value.memberOf_eq, Value.memberOf_eq, harray]
    split
    · exact (halike.element _).map_outline
    · exact (halike.member key).map_outline

end Order

end Config

/-! ## Loading -/

namespace Settings

variable (files vars : List (String × String)) (service environment : String)

/-- **Unreadable files**: there are no settings for want of a readable file iff one of the files
that are looked at is no TOML. -/
theorem load_eq_unreadableFile_iff :
    load files vars service environment = .error .unreadableFile ↔
      ∃ layer ∈ ["default", environment, service], Unreadable files layer := by
  have hlayers := exists_layers_iff files vars service environment
  rw [load]
  cases h : layers files vars service environment with
  | ok ls =>
    refine iff_of_false (fun hload => ?_) fun ⟨layer, hmem, hlayer⟩ => ?_
    · exact faultsAre_ofValue _ _ hload rfl
    · exact hlayers.1 ⟨ls, h⟩ layer hmem hlayer
  | error problem =>
    obtain rfl := faultsAre_layers files vars service environment problem h
    refine iff_of_true rfl ?_
    by_contra hnone
    obtain ⟨ls, hls⟩ := hlayers.2 fun layer hmem hlayer => hnone ⟨layer, hmem, hlayer⟩
    exact nomatch h.symm.trans hls

/-- **Settings from merged layers** are what the last layers give. -/
theorem ofValue_merged_eq_ok_iff (layers : List Table) (s : Settings) :
    ofValue (merged layers service environment) = .ok s ↔
      (last? (setting? "service_name") layers).elim (.ok service) Value.toText =
          .ok s.serviceName ∧
        (last? (setting? "environment") layers).elim (.ok environment) Value.toText =
          .ok s.environment ∧
        (HasSection "engine" layers ∧
          s.engine.TakenFrom (sectionPart? EngineSettings.memberNames "engine" layers)) ∧
        HasSection "observability" layers ∧
          s.observability.TakenFrom
            (sectionPart? LogSettings.memberNames "observability" layers) := by
  obtain ⟨entries, hentries⟩ :
      ∃ entries, merged layers service environment = .table entries :=
    ⟨_, merged_eq_table layers service environment⟩
  have hlookup (name : String) : entries.lookup name =
      (merged layers service environment).entries.lookup name := by
    rw [hentries]
    rfl
  rw [hentries, ofValue_eq_ok_iff]
  simp only [hlookup]
  rw [elim_lookup_merged Value.toText_outline, elim_lookup_merged Value.toText_outline,
    section_eq_ok_iff EngineSettings.ofValue_eq_ok_iff EngineSettings.takenFrom_none
      EngineSettings.takenFrom_congr rfl,
    section_eq_ok_iff LogSettings.ofValue_eq_ok_iff LogSettings.takenFrom_none
      LogSettings.takenFrom_congr rfl]
  rfl

/-- **The order of entries is of no importance** where layers are unambiguous. -/
theorem ofValue_merged_of_perm {layers taken : List Table}
    (hperm : List.Forall₂ List.Perm layers taken) (hclear : ∀ layer ∈ layers, Unambiguous layer)
    (s : Settings) :
    ofValue (merged taken service environment) = .ok s ↔
      ofValue (merged layers service environment) = .ok s := by
  have hengine := EngineSettings.takenFrom_congr _ _
    (outline_sectionPart_of_perm hperm hclear EngineSettings.memberNames "engine")
  have hlog := LogSettings.takenFrom_congr _ _
    (outline_sectionPart_of_perm hperm hclear LogSettings.memberNames "observability")
  rw [ofValue_merged_eq_ok_iff, ofValue_merged_eq_ok_iff, hengine, hlog,
    hasSection_of_perm hperm hclear, hasSection_of_perm hperm hclear,
    elim_congr Value.toText_outline (outline_last_setting_of_perm hperm hclear "service_name"),
    elim_congr Value.toText_outline (outline_last_setting_of_perm hperm hclear "environment")]

/-- **The last layers are taken**: loading fails for want of a readable file iff one of the files
that are looked at is no TOML. Otherwise, if no layer has entries that do not lead apart, the name
of the service and the environment are what the last layer gives that has them, or else the
arguments; the engine and the log need a section, if there is one in any layer; and their settings
are what the last layer gives that has them, of those after the last one that made the section
something other than a table, or the elements in their places where the section ends up as an array,
or else their defaults. In which order the entries of each layer are taken does not matter. -/
theorem load_takes_last_layers :
    (load files vars service environment = .error .unreadableFile ↔
      ∃ layer ∈ ["default", environment, service], Unreadable files layer) ∧
    ∀ shared ofEnvironment ofService : Table,
      fileLayer files "default" = .ok shared →
      fileLayer files environment = .ok ofEnvironment →
      fileLayer files service = .ok ofService →
      let layers := [shared, ofEnvironment, ofService, Variable.table vars]
      (∀ layer ∈ layers, Unambiguous layer) →
      ∀ s : Settings,
        (load files vars service environment = .ok s ↔
          (last? (setting? "service_name") layers).elim (.ok service) Value.toText =
              .ok s.serviceName ∧
            (last? (setting? "environment") layers).elim (.ok environment) Value.toText =
              .ok s.environment ∧
            (HasSection "engine" layers ∧
              s.engine.TakenFrom
                (partFrom? (following "engine" layers) EngineSettings.memberNames "engine"
                  layers)) ∧
            HasSection "observability" layers ∧
              s.observability.TakenFrom
                (partFrom? (following "observability" layers) LogSettings.memberNames
                  "observability" layers)) ∧
        ∀ taken, List.Forall₂ List.Perm layers taken →
          (ofValue (merged taken service environment) = .ok s ↔
            load files vars service environment = .ok s) := by
  refine ⟨load_eq_unreadableFile_iff files vars service environment, ?_⟩
  intro shared ofEnvironment ofService hshared hofEnvironment hofService layers hclear s
  have hlayers : Config.layers files vars service environment = .ok layers := by
    rw [Config.layers, List.mapM_cons, List.mapM_cons, List.mapM_cons, List.mapM_nil, hshared,
      hofEnvironment, hofService]
    rfl
  have hload : load files vars service environment =
      ofValue (merged layers service environment) := by
    rw [load, hlayers]
    rfl
  rw [hload]
  refine ⟨?_, fun taken hperm => ofValue_merged_of_perm service environment hperm hclear s⟩
  rw [partFrom_following hclear, partFrom_following hclear]
  exact ofValue_merged_eq_ok_iff service environment layers s

/-- The file of the environment has a number in place of the engine section, so what the shared file
gives in this section is lost; the file of the service has the section again. The two variables may
be taken in either order. -/
theorem load_takes_last_layers_broken_section :
    let files := [("default.toml", "engine.trace_enabled = 1"), ("qa.toml", "engine = 5"),
      ("shop.toml", "engine.warn_on_invalid_rules = 0")]
    let vars := [("PK_FILTER_OBSERVABILITY__LOG_LEVEL", "warn"), ("PK_FILTER_SERVICE_NAME", "till")]
    let shared : Table := [("engine", .table [("trace_enabled", .integer 1)])]
    let ofEnvironment : Table := [("engine", .integer 5)]
    let ofService : Table := [("engine", .table [("warn_on_invalid_rules", .integer 0)])]
    let s : Settings :=
      { serviceName := "till"
        environment := "qa"
        engine := { traceEnabled := false, warnOnInvalidRules := false }
        observability := { logLevel := "warn" } }
    fileLayer files "default" = .ok shared ∧
      fileLayer files "qa" = .ok ofEnvironment ∧
      fileLayer files "shop" = .ok ofService ∧
      (∀ layer ∈ [shared, ofEnvironment, ofService, Variable.table vars], Unambiguous layer) ∧
      load files vars "shop" "qa" = .ok s ∧
      ofValue (merged [shared, ofEnvironment, ofService, Variable.table vars.reverse] "shop" "qa") =
        .ok s := by
  intro files vars shared ofEnvironment ofService s
  let given : Table := [("observability.log_level", .text "warn"), ("service_name", .text "till")]
  let layers : List Table := [shared, ofEnvironment, ofService, given]
  -- what the layers give is evaluated first, where there is little around it
  have hengine : last? (setting? "engine") layers =
      some (.table [("warn_on_invalid_rules", .integer 0)]) := by cbv
  have hlog : last? (setting? "observability") layers =
      some (.table [("log_level", .text "warn")]) := by cbv
  have hservice : (last? (setting? "service_name") layers).elim (.ok "shop") Value.toText =
      .ok s.serviceName := by cbv
  have henvironment : (last? (setting? "environment") layers).elim (.ok "qa") Value.toText =
      .ok s.environment := by cbv
  have hengine' : s.engine.TakenFrom
      (partFrom? (following "engine" layers) EngineSettings.memberNames "engine" layers) := by
    unfold EngineSettings.TakenFrom
    constructor <;> cbv
  have hlog' : s.observability.TakenFrom (partFrom? (following "observability" layers)
      LogSettings.memberNames "observability" layers) := by
    unfold LogSettings.TakenFrom
    constructor <;> cbv
  have hshared : fileLayer files "default" = .ok shared := by cbv
  have hofEnvironment : fileLayer files "qa" = .ok ofEnvironment := by cbv
  have hofService : fileLayer files "shop" = .ok ofService := by cbv
  have hvars : Variable.table vars = given := by cbv
  have hlevel : KeyPath.ofText "observability.log_level" =
      [.key "observability", .key "log_level"] := by rfl
  have hname : KeyPath.ofText "service_name" = [.key "service_name"] := by rfl
  have hclear : ∀ layer ∈ [shared, ofEnvironment, ofService, Variable.table vars],
      Unambiguous layer := by
    rw [hvars]
    simp only [List.forall_mem_cons]
    refine ⟨List.pairwise_singleton _ _, List.pairwise_singleton _ _, List.pairwise_singleton _ _,
      .cons (List.forall_mem_singleton.2 ?_) (List.pairwise_singleton _ _), List.forall_mem_nil _⟩
    rw [hlevel, hname]
    exact .inl (by decide)
  refine ⟨hshared, hofEnvironment, hofService, hclear, ?_⟩
  obtain ⟨htaken, horder⟩ := (load_takes_last_layers files vars "shop" "qa").2 _ _ _ hshared
    hofEnvironment hofService hclear s
  rw [hvars] at htaken
  have hload : load files vars "shop" "qa" = .ok s := by
    refine htaken.2 ⟨hservice, henvironment, ⟨fun v hv => ?_, hengine'⟩, fun v hv => ?_, hlog'⟩
    · obtain rfl := Option.some.inj (hengine.symm.trans hv)
      trivial
    · obtain rfl := Option.some.inj (hlog.symm.trans hv)
      trivial
  refine ⟨hload, (horder _ ?_).2 hload⟩
  have hswap : (Variable.table vars).Perm (Variable.table vars.reverse) :=
    (List.reverse_perm vars).symm.filterMap _
  exact .cons (.refl _) (.cons (.refl _) (.cons (.refl _) (.cons hswap .nil)))

/-- No layer has an engine setting by its name, yet tracing is on: the first element of an array in
place of the section says so. -/
theorem load_reads_array_in_order :
    let files := [("default.toml", "engine = [true]")]
    let layers : List Table := [[("engine", .array [.bool true])], [], [], []]
    Config.layers files [] "shop" "qa" = .ok layers ∧
      (∀ layer ∈ layers, Unambiguous layer) ∧
      ∃ s, load files [] "shop" "qa" = .ok s ∧
        ¬s.engine.TakenFrom fun key =>
          last? (sectionSetting? "engine" key) (following "engine" layers) := by
  intro files layers
  have hload : load files [] "shop" "qa" =
      .ok { serviceName := "shop", environment := "qa", engine := { traceEnabled := true } } := by
    cbv
  have hclear : ∀ layer ∈ layers, Unambiguous layer := by
    simp only [layers, List.forall_mem_cons]
    exact ⟨List.pairwise_singleton _ _, .nil, .nil, .nil, List.forall_mem_nil _⟩
  have hnone : last? (sectionSetting? "engine" "trace_enabled") (following "engine" layers) =
      none := by
    rw [last_following hclear]
    cbv
  refine ⟨by cbv, hclear, _, hload, fun htaken => ?_⟩
  have htrace := htaken.1
  beta_reduce at htrace
  rw [hnone] at htrace
  exact Bool.false_ne_true (Except.ok.inj htrace)

end Settings

end Sift
