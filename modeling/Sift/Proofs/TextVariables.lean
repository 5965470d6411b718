import Sift.Proofs.LayeredSettings
import Sift.Proofs.PlainText

set_option autoImplicit false
set_option relaxedAutoImplicit false

/-!
# Texts from variables

A setting that is a text can be given by a variable. Whatever the files say, it then is the plain
text of what the variable is set to, and no other setting changes with it, unless another variable
bears on the setting as well. Which of the two were taken first would then matter, and the order of
variables is not to be relied on.

## Main definitions

* `Sift.Config.LeadsPast` — a path leads to something other than given names do.
* `Sift.Config.Variable.IsBeside` — a variable does not bear on what names lead to.
* `Sift.TextSetting` — the settings that are texts.

## Main results

* `Sift.Config.setting_of_leadsPast`, `Sift.Config.sectionSetting_of_leadsPast` — what a layer gives
  a setting by an entry after which nothing bears on the setting.
* `Sift.Settings.text_variable_arrives_plain` — a text setting from a variable.
-/

namespace Sift

namespace Config

/-! ## Entries in a layer -/

/-- A path leads past what the names lead to: it takes another name than they do. -/
def LeadsPast : List String → List Value.Step → Prop
  | name :: names, .key n :: rest => n ≠ name ∨ LeadsPast names rest
  | _, _ => False

section Entry

variable (front back : Table) (key : String) (v v' : Value)

/-- The writes of a layer around those of one of its entries. -/
lemma writes_insert (name : String) :
    writes name (front ++ (key, v) :: back) =
      writes name front ++ ((below name (KeyPath.ofText key, v)).toList ++ writes name back) := by
  rw [writes_append, writes_cons]

variable {key}

/-- An entry does not bear on settings of another name. -/
lemma writes_insert_congr {n : String} {rest : List Value.Step}
    (hkey : KeyPath.ofText key = .key n :: rest) {name : String} (hname : name ≠ n) :
    writes name (front ++ (key, v) :: back) = writes name (front ++ (key, v') :: back) := by
  have hnone (v : Value) : below name (KeyPath.ofText key, v) = none := by
    rw [hkey, below, if_neg (Ne.symm hname)]
  rw [writes_insert, writes_insert, hnone, hnone]

lemma leadsPast_of_mem_writes {name : String} {names : List String} {layer : Table}
    (h : ∀ entry ∈ layer, LeadsPast (name :: names) (KeyPath.ofText entry.1)) {w : Write}
    (hw : w ∈ writes name layer) : LeadsPast names w.1 := by
  obtain ⟨entry, hentry, hbelow⟩ := List.mem_filterMap.1 hw
  have hpast := h entry hentry
  obtain ⟨n, rest, hpath, -⟩ := KeyPath.ofText_eq_cons entry.1
  rw [hpath] at hpast hbelow
  rw [below, Option.ite_none_right_eq_some] at hbelow
  obtain ⟨rfl, hrest⟩ := hbelow
  obtain rfl := Option.some.inj hrest
  exact hpast.resolve_left (absurd rfl)

/-- **A setting** is what the last entry gives it that bears on it. -/
theorem setting_of_leadsPast {name : String} (hkey : KeyPath.ofText key = [.key name])
    (hback : ∀ entry ∈ back, LeadsPast [name] (KeyPath.ofText entry.1)) :
    setting? name (front ++ (key, v) :: back) =
      some (v.merge (setting? name front)) := by
  have hnil : writes name back = [] :=
    List.eq_nil_iff_forall_not_mem.2 fun w hw => (leadsPast_of_mem_writes hback hw).elim
  have hbelow : below name (KeyPath.ofText key, v) = some ([], v) := by
    rw [hkey, below, if_pos rfl]
  rw [setting_eq_written, writes_insert, hnil, hbelow, List.append_nil, Option.toList_some,
    written_concat, ← setting_eq_written]
  rfl

end Entry

/-! ## Entries in sections -/

lemma LeadsPast.exists_eq_cons {member : String} {path : List Value.Step}
    (h : LeadsPast [member] path) : ∃ n rest, path = .key n :: rest ∧ n ≠ member := by
  match path with
  | .key n :: rest => exact ⟨n, rest, rfl, h.resolve_right id⟩

section Members

variable {member : String} {ws : List Write} (hws : ∀ w ∈ ws, LeadsPast [member] w.1)

include hws

/-- Writes past a member of a section leave it as it is. -/
lemma member_written_of_leadsPast (v : Option Value) :
    member? member (written v ws) = member? member v := by
  induction ws generalizing v with
  | nil => rfl
  | cons w ws ih =>
    obtain ⟨hw, hrest⟩ := List.forall_mem_cons.1 hws
    obtain ⟨path, value⟩ := w
    obtain ⟨n, rest, rfl, hne⟩ := hw.exists_eq_cons
    calc member? member (written v ((.key n :: rest, value) :: ws))
        = member? member (some (Value.assign (.key n :: rest) value v)) := ih hrest _
      _ = member? member v := by rw [member_assign_key, if_neg (Ne.symm hne)]

/-- Writes past a member of a section treat the other members one by one. -/
lemma member_written_congr {other : String} {v v' : Option Value}
    (h : member? other v = member? other v') :
    member? other (written v ws) = member? other (written v' ws) := by
  induction ws generalizing v v' with
  | nil => exact h
  | cons w ws ih =>
    obtain ⟨hw, hrest⟩ := List.forall_mem_cons.1 hws
    obtain ⟨path, value⟩ := w
    obtain ⟨n, rest, rfl, -⟩ := hw.exists_eq_cons
    refine ih hrest ?_
    rw [member_assign_key, member_assign_key]
    by_cases hother : other = n
    · rw [if_pos hother, if_pos hother, ← hother, h]
    · rw [if_neg hother, if_neg hother, h]

/-- Writes past a member of a section leave it a table. -/
lemma exists_written_eq_table (entries : Table) :
    ∃ entries', written (some (.table entries)) ws = some (.table entries') := by
  induction ws generalizing entries with
  | nil => exact ⟨entries, rfl⟩
  | cons w ws ih =>
    obtain ⟨hw, hrest⟩ := List.forall_mem_cons.1 hws
    obtain ⟨path, value⟩ := w
    obtain ⟨n, rest, rfl, -⟩ := hw.exists_eq_cons
    exact ih hrest _

end Members

section SectionEntry

variable {front back : Table} {key name member : String}
  (hkey : KeyPath.ofText key = [.key name, .key member])
  (hback : ∀ entry ∈ back, LeadsPast [name, member] (KeyPath.ofText entry.1))

include hkey

/-- The section of a layer with an entry for one of its members. -/
lemma setting_insert_member (v : Value) :
    setting? name (front ++ (key, v) :: back) =
      written (some (Value.assign [.key member] v (setting? name front))) (writes name back) := by
  have hbelow : below name (KeyPath.ofText key, v) = some ([.key member], v) := by
    rw [hkey, below, if_pos rfl]
  rw [setting_eq_written, writes_insert, hbelow, written_append, ← setting_eq_written]
  rfl

include hback

/-- **A setting of a section** is what the last entry gives it that bears on it. -/
theorem sectionSetting_of_leadsPast (v : Value) :
    sectionSetting? name member (front ++ (key, v) :: back) =
      some (v.merge (sectionSetting? name member front)) := by
  have hpast : ∀ w ∈ writes name back, LeadsPast [member] w.1 :=
    fun _ hw => leadsPast_of_mem_writes hback hw
  rw [sectionSetting?, setting_insert_member hkey, member_written_of_leadsPast hpast,
    member_assign_key, if_pos rfl, Value.assign, sectionSetting?]

/-- The entry does not bear on the other settings of the section. -/
lemma sectionSetting_insert_congr {other : String} (hother : other ≠ member) (v v' : Value) :
    sectionSetting? name other (front ++ (key, v) :: back) =
      sectionSetting? name other (front ++ (key, v') :: back) := by
  have hpast : ∀ w ∈ writes name back, LeadsPast [member] w.1 :=
    fun _ hw => leadsPast_of_mem_writes hback hw
  rw [sectionSetting?, sectionSetting?, setting_insert_member hkey, setting_insert_member hkey]
  refine member_written_congr hpast ?_
  rw [member_assign_key, member_assign_key, if_neg hother, if_neg hother]

lemma exists_setting_eq_table (v : Value) :
    ∃ entries, setting? name (front ++ (key, v) :: back) = some (.table entries) := by
  rw [setting_insert_member hkey]
  exact exists_written_eq_table (fun _ hw => leadsPast_of_mem_writes hback hw) _

omit hback in
lemma breaks_insert_congr (v v' : Value) :
    breaks name (front ++ (key, v) :: back) = breaks name (front ++ (key, v') :: back) := by
  have hbelow (v : Value) : below name (KeyPath.ofText key, v) = some ([.key member], v) := by
    rw [hkey, below, if_pos rfl]
  simp only [breaks, writes_insert, hbelow, List.any_append]
  rfl

end SectionEntry

/-! ## The last layer -/

/-- What the standing layers give a setting of a section, told by the last layer. -/
lemma last_standing_concat (name key : String) (layers : List Table) (layer : Table) :
    last? (sectionSetting? name key) (standing name (layers ++ [layer])) =
      (sectionSetting? name key layer).or
        (if breaks name layer then none
          else last? (sectionSetting? name key) (standing name layers)) := by
  rw [standing_concat]
  by_cases hbreaks : breaks name layer = true
  · rw [if_pos hbreaks, if_pos hbreaks, last_singleton, Option.or_none]
  · rw [if_neg hbreaks, if_neg hbreaks, last_concat]

/-- Where the last layer that has a section makes it a table, the standing layers give its
settings. -/
lemma sectionPart_of_table {name : String} {layers : List Table} {entries : Table}
    (h : last? (setting? name) layers = some (.table entries)) (names : List String)
    (key : String) :
    sectionPart? names name layers key =
      last? (sectionSetting? name key) (standing name layers) := by
  have houtline := setting_flatten name layers
  rw [h] at houtline
  rw [sectionPart?, partFrom?]
  split
  · next elements harray =>
    rw [harray] at houtline
    cases Option.some.inj houtline
  · rfl

section Congr

variable {name : String} {layer layer' : Table} (h : writes name layer = writes name layer')
  (layers : List Table)

include h

/-- A layer bears on a setting by its writes below the name of the setting. -/
lemma last_setting_congr :
    last? (setting? name) (layers ++ [layer]) = last? (setting? name) (layers ++ [layer']) := by
  rw [last_concat, last_concat, setting_eq_written, setting_eq_written, h]

lemma sectionPart_congr (names : List String) :
    sectionPart? names name (layers ++ [layer]) = sectionPart? names name (layers ++ [layer']) := by
  funext key
  have hsetting : setting? name (layers ++ [layer]).flatten =
      setting? name (layers ++ [layer']).flatten := by
    simp only [List.flatten_append, List.flatten_singleton, setting_eq_written, writes_append, h]
  have hmember : sectionSetting? name key layer = sectionSetting? name key layer' := by
    rw [sectionSetting?, sectionSetting?, setting_eq_written, setting_eq_written, h]
  have hbreaks : breaks name layer = breaks name layer' := by rw [breaks, breaks, h]
  rw [sectionPart?, sectionPart?, partFrom?, partFrom?, hsetting, last_standing_concat,
    last_standing_concat, hmember, hbreaks]

lemma section_congr (names : List String) (p : (String → Option Value) → Prop) :
    (HasSection name (layers ++ [layer]) ∧ p (sectionPart? names name (layers ++ [layer]))) ↔
      HasSection name (layers ++ [layer']) ∧ p (sectionPart? names name (layers ++ [layer'])) := by
  rw [HasSection, last_setting_congr h, sectionPart_congr h, HasSection]

end Congr

/-! ## Variables -/

namespace Variable

/-- A variable does not bear on what the names lead to. -/
def IsBeside (names : List String) (name : String) : Prop :=
  ∀ key, key? name = some key → LeadsPast names (KeyPath.ofText key)

lemma table_insert {name key : String} (hkey : key? name = some key)
    (before after : List (String × String)) (s : String) :
    table (before ++ (name, s) :: after) = table before ++ (key, value s) :: table after := by
  simp only [table, List.filterMap_append, List.filterMap_cons, hkey, Option.map_some]

lemma leadsPast_of_mem_table {names : List String} {vars : List (String × String)}
    (h : ∀ entry ∈ vars, IsBeside names entry.1) :
    ∀ entry ∈ table vars, LeadsPast names (KeyPath.ofText entry.1) := by
  intro entry hentry
  obtain ⟨⟨name, s⟩, hmem, hmap⟩ := List.mem_filterMap.1 hentry
  obtain ⟨key, hkey, rfl⟩ := Option.map_eq_some_iff.1 hmap
  exact h _ hmem key hkey

/-- The value of a variable is not merged with what was there before. -/
lemma merge_value (s : String) (earlier : Option Value) : (value s).merge earlier = value s := by
  obtain ⟨b, -, h⟩ | ⟨n, -, h⟩ | ⟨x, -, -, h⟩ | ⟨-, h⟩ := value_cases s <;>
    rw [h] <;> simp [Value.merge]

end Variable

end Config

open Config

/-! ## Text settings -/

/-- The settings that are texts. -/
inductive TextSetting
  /-- The name of the service. -/
  | serviceName
  /-- The environment. -/
  | environment
  /-- The level of the log. -/
  | logLevel

namespace TextSetting

/-- The names that lead to a setting. -/
def names : TextSetting → List String
  | serviceName => ["service_name"]
  | environment => ["environment"]
  | logLevel => ["observability", "log_level"]

/-- The variable that gives a setting. -/
def variableName : TextSetting → String
  | serviceName => "PK_FILTER_SERVICE_NAME"
  | environment => "PK_FILTER_ENVIRONMENT"
  | logLevel => "PK_FILTER_OBSERVABILITY__LOG_LEVEL"

/-- Settings with one of the texts replaced. -/
def put (text : String) (s : Settings) : TextSetting → Settings
  | serviceName => { s with serviceName := text }
  | environment => { s with environment := text }
  | logLevel => { s with observability := { s.observability with logLevel := text } }

/-- The variable of a setting sets the key that leads to the setting. -/
lemma exists_key?_variableName (setting : TextSetting) :
    ∃ key, Variable.key? setting.variableName = some key ∧
      KeyPath.ofText key = setting.names.map .key := by
  cases setting with
  | serviceName => exact ⟨"service_name", by decide +kernel, by rfl⟩
  | environment => exact ⟨"environment", by decide +kernel, by rfl⟩
  | logLevel => exact ⟨"observability.log_level", by decide +kernel, by rfl⟩

end TextSetting

namespace Settings

variable (files vars : List (String × String)) (service environment : String)

lemma load_eq_ok_iff (s : Settings) :
    load files vars service environment = .ok s ↔
      ∃ ofFiles, ["default", environment, service].mapM (fileLayer files) = .ok ofFiles ∧
        ofValue (merged (ofFiles ++ [Variable.table vars]) service environment) = .ok s := by
  simp only [load, layers, bind_eq_ok_iff, pure_eq_ok_iff]
  constructor
  · rintro ⟨_, ⟨ofFiles, hfiles, rfl⟩, hs⟩
    exact ⟨ofFiles, hfiles, hs⟩
  · rintro ⟨ofFiles, hfiles, hs⟩
    exact ⟨_, ⟨ofFiles, hfiles, rfl⟩, hs⟩

section Replaced

variable {service environment key t u : String} {layers : List Table} {front back : Table}

/-- The log settings under a variable for the level of the log. -/
lemma log_takenFrom_insert (hkey : KeyPath.ofText key = [.key "observability", .key "log_level"])
    (hback : ∀ entry ∈ back, LeadsPast ["observability", "log_level"] (KeyPath.ofText entry.1))
    {s : LogSettings}
    (hs : s.TakenFrom (sectionPart? LogSettings.memberNames "observability"
      (layers ++ [front ++ (key, Variable.value u) :: back]))) :
    HasSection "observability" (layers ++ [front ++ (key, Variable.value t) :: back]) ∧
      LogSettings.TakenFrom (sectionPart? LogSettings.memberNames "observability"
        (layers ++ [front ++ (key, Variable.value t) :: back]))
        { s with logLevel := Variable.plain t } := by
  have hlast (v : Value) : ∃ entries,
      last? (setting? "observability") (layers ++ [front ++ (key, v) :: back]) =
        some (.table entries) := by
    obtain ⟨entries, hentries⟩ := exists_setting_eq_table hkey hback v
    exact ⟨entries, by rw [last_concat, hentries, Option.some_or]⟩
  obtain ⟨entries, ht⟩ := hlast (Variable.value t)
  obtain ⟨entries', hu⟩ := hlast (Variable.value u)
  obtain ⟨-, hjson⟩ := hs
  refine ⟨fun v hv => ?_, ?_, ?_⟩
  · rw [ht] at hv
    obtain rfl := Option.some.inj hv
    trivial
  · rw [sectionPart_of_table ht, last_standing_concat, sectionSetting_of_leadsPast hkey hback,
      Variable.merge_value]
    exact Variable.toText_value t
  · rw [sectionPart_of_table hu, last_standing_concat] at hjson
    rw [sectionPart_of_table ht, last_standing_concat,
      sectionSetting_insert_congr hkey hback (by decide) _ (Variable.value u),
      breaks_insert_congr hkey _ (Variable.value u)]
    exact hjson

/-- A setting of its own under a variable for it. -/
lemma elim_last_insert {name : String} (hkey : KeyPath.ofText key = [.key name])
    (hback : ∀ entry ∈ back, LeadsPast [name] (KeyPath.ofText entry.1))
    (default : Except Problem String) :
    (last? (setting? name) (layers ++ [front ++ (key, Variable.value t) :: back])).elim default
      Value.toText = .ok (Variable.plain t) := by
  rw [last_concat, setting_of_leadsPast front back _ hkey hback, Variable.merge_value]
  exact Variable.toText_value t

/-- **A text setting in the last layer** is the plain text of what its variable is set to, and no
other setting changes with it. -/
theorem ofValue_merged_insert {s : Settings}
    (hs : ofValue
      (merged (layers ++ [front ++ (key, Variable.value u) :: back]) service environment) = .ok s)
    {setting : TextSetting} (hkey : KeyPath.ofText key = setting.names.map .key)
    (hback : ∀ entry ∈ back, LeadsPast setting.names (KeyPath.ofText entry.1)) :
    ofValue (merged (layers ++ [front ++ (key, Variable.value t) :: back]) service environment) =
      .ok (setting.put (Variable.plain t) s) := by
  have hothers (name : String) (hname : setting.names.head? ≠ some name) :
      writes name (front ++ (key, Variable.value t) :: back) =
        writes name (front ++ (key, Variable.value u) :: back) := by
    cases setting <;>
      exact writes_insert_congr front back _ _ hkey fun h => hname (congrArg some h.symm)
  rw [ofValue_merged_eq_ok_iff] at hs ⊢
  obtain ⟨hservice, henvironment, hengine, hlog⟩ := hs
  have hengine' := (section_congr (hothers "engine" (by cases setting <;> decide)) layers _
    (EngineSettings.TakenFrom · s.engine)).2 hengine
  have hlog' (hname : setting.names.head? ≠ some "observability") :=
    (section_congr (hothers "observability" hname) layers _
      (LogSettings.TakenFrom · s.observability)).2 hlog
  cases setting with
  | serviceName =>
    refine ⟨elim_last_insert hkey hback _, ?_, hengine', hlog' (by decide)⟩
    rw [last_setting_congr (hothers "environment" (by decide))]
    exact henvironment
  | environment =>
    refine ⟨?_, elim_last_insert hkey hback _, hengine', hlog' (by decide)⟩
    rw [last_setting_congr (hothers "service_name" (by decide))]
    exact hservice
  | logLevel =>
    refine ⟨?_, ?_, hengine', log_takenFrom_insert hkey hback hlog.2⟩
    · rw [last_setting_congr (hothers "service_name" (by decide))]
      exact hservice
    · rw [last_setting_congr (hothers "environment" (by decide))]
      exact henvironment

end Replaced

/-- **A text setting from a variable arrives as a plain text.** Where the settings can be loaded
while the variable of a text setting is set to some text, and no other variable bears on the
setting, they can be loaded with any other text in its place; the setting is then the plain text of
it, and all other settings are the same. Texts that are no literals are plain, and so are the texts
that literals are written as, other than `-0`. -/
theorem text_variable_arrives_plain (setting : TextSetting)
    {files before after : List (String × String)} {service environment u : String} {s : Settings}
    (hs : load files (before ++ (setting.variableName, u) :: after) service environment = .ok s)
    (hothers : ∀ entry ∈ before ++ after, Variable.IsBeside setting.names entry.1) (t : String) :
    load files (before ++ (setting.variableName, t) :: after) service environment =
        .ok (setting.put (Variable.plain t) s) ∧
      (¬Variable.IsLiteral t → Variable.plain t = t) ∧
      (Variable.plain t = t ↔ t ≠ "-0" ∧ ∃ t', Variable.plain t' = t) := by
  refine ⟨?_, Variable.plain_of_not_isLiteral, Variable.plain_eq_self_iff⟩
  obtain ⟨key, hkey, hpath⟩ := setting.exists_key?_variableName
  rw [load_eq_ok_iff] at hs ⊢
  obtain ⟨ofFiles, hfiles, hs⟩ := hs
  refine ⟨ofFiles, hfiles, ?_⟩
  rw [Variable.table_insert hkey] at hs ⊢
  have hafter : ∀ entry ∈ after, Variable.IsBeside setting.names entry.1 :=
    fun entry hentry => hothers entry (List.mem_append_right before hentry)
  exact ofValue_merged_insert hs hpath (Variable.leadsPast_of_mem_table hafter)

/-- A file has a number in place of the section for the log, which the variable for the level turns
into a section; one of the other variables is no setting, and the other one bears on another
setting. -/
theorem text_variable_arrives_plain_log_level :
    let setting := TextSetting.logLevel
    let files := [("default.toml", "observability = 5")]
    let before := [("HOME", "/root")]
    let after := [("PK_FILTER_ENVIRONMENT", "PROD")]
    let loaded (level : String) : Settings :=
      { serviceName := "shop", environment := "PROD", observability := { logLevel := level } }
    load files (before ++ (setting.variableName, "WARN") :: after) "shop" "qa" =
        .ok (loaded "WARN") ∧
      (∀ entry ∈ before ++ after, Variable.IsBeside setting.names entry.1) ∧
      load files (before ++ (setting.variableName, "1e3") :: after) "shop" "qa" =
        .ok (loaded "1000") ∧
      ¬Variable.IsLiteral "trace" ∧
      load files (before ++ (setting.variableName, "trace") :: after) "shop" "qa" =
        .ok (loaded "trace") := by
  intro setting files before after loaded
  have hs : load files (before ++ (setting.variableName, "WARN") :: after) "shop" "qa" =
      .ok (loaded "WARN") := by decide +kernel
  have hothers : ∀ entry ∈ before ++ after, Variable.IsBeside setting.names entry.1 := by
    have hhome : Variable.key? "HOME" = none := by decide +kernel
    have hname : Variable.key? "PK_FILTER_ENVIRONMENT" = some "environment" := by decide +kernel
    refine List.forall_mem_cons.2 ⟨fun key hkey => ?_, List.forall_mem_singleton.2 ?_⟩
    · exact nomatch hhome.symm.trans hkey
    · intro key hkey
      obtain rfl := Option.some.inj (hname.symm.trans hkey)
      exact Or.inl (by decide)
  have hplain : Variable.plain "1e3" = "1000" := by decide +kernel
  have htrace : ¬Variable.IsLiteral "trace" := by
    unfold Variable.IsLiteral
    decide +kernel
  obtain ⟨hnumber, -, -⟩ := text_variable_arrives_plain setting hs hothers "1e3"
  obtain ⟨hword, hstays, -⟩ := text_variable_arrives_plain setting hs hothers "trace"
  rw [hplain] at hnumber
  rw [hstays htrace] at hword
  exact ⟨hs, hothers, hnumber, htrace, hword⟩

/-- A service whose name is set to three digits, of which the first two are zeros, is loaded with
another name. -/
theorem text_variable_loses_leading_zeros :
    let s : Settings := { serviceName := "7", environment := "qa" }
    load [] [("PK_FILTER_SERVICE_NAME", "007")] "shop" "qa" = .ok s ∧ s.serviceName ≠ "007" := by
  intro s
  exact ⟨by decide +kernel, by decide⟩

end Settings

end Sift
