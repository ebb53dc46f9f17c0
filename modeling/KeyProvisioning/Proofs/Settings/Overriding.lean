import KeyProvisioning.Config
import KeyProvisioning.Proofs.Text.Characters
import KeyProvisioning.Proofs.Toml.Fields
import KeyProvisioning.Proofs.Toml.Rows
import KeyProvisioning.Settings.Store

/-!
# Partial documents

The tunables and the settings are read from a document by one rule: the fields that the document
names replace those of the defaults, and a named field of another type or range refuses the
document.
-/

namespace KeyProvisioning

open Toml (Row KnownField Entries)

/-! ## Tunables -/

namespace Config

/-- The fields of the tunables. -/
def fields : List (KnownField Config) :=
  [⟨"test_mode", .boolean, testMode,
      fun value config => { config with testMode := value }, fun _ _ => rfl⟩,
    ⟨"key_generation_pause_ms", .count64, pauseMillis,
      fun value config => { config with pauseMillis := value }, fun _ _ => rfl⟩,
    ⟨"failure_maximum", .count32, failureMaximum,
      fun value config => { config with failureMaximum := value }, fun _ _ => rfl⟩,
    ⟨"connect_timeout_secs", .count64, connectTimeoutSeconds,
      fun value config => { config with connectTimeoutSeconds := value }, fun _ _ => rfl⟩,
    ⟨"request_timeout_secs", .count64, requestTimeoutSeconds,
      fun value config => { config with requestTimeoutSeconds := value }, fun _ _ => rfl⟩,
    ⟨"strict_http_status", .boolean, strictStatus,
      fun value config => { config with strictStatus := value }, fun _ _ => rfl⟩]

theorem lawful_fields : KnownField.Lawful fields where
  distinct := by decide
  ext := by
    rintro ⟨⟩ ⟨⟩ h
    simpa [fields] using h
  get_put_other := by
    intro field hfield other hother hne
    simp only [fields, List.mem_cons, List.not_mem_nil, or_false] at hfield hother
    rcases hfield with rfl | rfl | rfl | rfl | rfl | rfl <;>
      rcases hother with rfl | rfl | rfl | rfl | rfl | rfl <;>
        first | exact absurd rfl hne | exact fun _ _ => rfl

/-- The tunables are read by their fields. -/
theorem ofEntries_eq_record? {entries : Entries} (hdistinct : (entries.map Prod.fst).Nodup)
    (hfits : ∀ entry ∈ entries, entry.2.Fits) :
    ofEntries entries = KnownField.record? fields default entries := by
  apply lawful_fields.eq_record? hdistinct hfits
  · intro config hfield
    simp only [fields, List.forall_mem_cons, Toml.Kind.read] at hfield
    obtain ⟨htest, hpause, hmaximum, hconnect, hrequest, hstrict, -⟩ := hfield
    rw [ofEntries, htest, hpause, hmaximum, hconnect, hrequest, hstrict]
    rfl
  · intro field hmem hnone
    simp only [fields, List.mem_cons, List.not_mem_nil, or_false] at hmem
    rcases hmem with rfl | rfl | rfl | rfl | rfl | rfl <;>
      simp only [Toml.Kind.read] at hnone <;> simp [ofEntries, hnone]

end Config

/-! ## Settings -/

namespace Settings

/-- The fields of the settings. -/
def fields : List (KnownField Settings) :=
  [⟨"extra_signed_keys_available", .count32, extraKeys,
      fun value settings => { settings with extraKeys := value }, fun _ _ => rfl⟩,
    ⟨"expiring_by_ms", .count64, expiringByMillis,
      fun value settings => { settings with expiringByMillis := value }, fun _ _ => rfl⟩,
    ⟨"refresh_interval_secs", .count64, refreshSeconds,
      fun value settings => { settings with refreshSeconds := value }, fun _ _ => rfl⟩,
    ⟨"provisioning_url", .text, serverUrl,
      fun value settings => { settings with serverUrl := value }, fun _ _ => rfl⟩,
    ⟨"failure_counter", .count32, failures,
      fun value settings => { settings with failures := value }, fun _ _ => rfl⟩]

theorem lawful_fields : KnownField.Lawful fields where
  distinct := by decide
  ext := by
    rintro ⟨⟩ ⟨⟩ h
    simpa [fields] using h
  get_put_other := by
    intro field hfield other hother hne
    simp only [fields, List.mem_cons, List.not_mem_nil, or_false] at hfield hother
    rcases hfield with rfl | rfl | rfl | rfl | rfl <;>
      rcases hother with rfl | rfl | rfl | rfl | rfl <;>
        first | exact absurd rfl hne | exact fun _ _ => rfl

/-- The settings are read by their fields. -/
theorem ofEntries_eq_record? {entries : Entries} (hdistinct : (entries.map Prod.fst).Nodup)
    (hfits : ∀ entry ∈ entries, entry.2.Fits) :
    ofEntries entries = KnownField.record? fields default entries := by
  apply lawful_fields.eq_record? hdistinct hfits
  · intro settings hfield
    simp only [fields, List.forall_mem_cons, Toml.Kind.read] at hfield
    obtain ⟨hextra, hexpiring, hrefresh, hurl, hfailures, -⟩ := hfield
    rw [ofEntries, hextra, hexpiring, hrefresh, hurl, hfailures]
    rfl
  · intro field hmem hnone
    simp only [fields, List.mem_cons, List.not_mem_nil, or_false] at hmem
    rcases hmem with rfl | rfl | rfl | rfl | rfl <;>
      simp only [Toml.Kind.read] at hnone <;> simp [ofEntries, hnone]

end Settings

/-! ## Documents -/

/-- A record that is read by its fields is read so from a document of rows. -/
theorem bind_parse_of_writes {Record : Type} {fields : List (KnownField Record)} {default : Record}
    {ofEntries : Entries → Option Record}
    (hread : ∀ {entries : Entries}, (entries.map Prod.fst).Nodup →
      (∀ entry ∈ entries, entry.2.Fits) →
        ofEntries entries = KnownField.record? fields default entries)
    {rows : List Row} {text : String} (h : Row.Writes rows text) :
    (Toml.parse text).bind ofEntries = KnownField.record? fields default (Row.entries rows) := by
  rw [Row.parse_of_writes h]
  split
  · rename_i hsound
    exact hread hsound.2 hsound.1
  · rename_i hunsound
    rw [KnownField.record?, if_neg fun haccepts => hunsound ⟨haccepts.fits, haccepts.distinct⟩]
    rfl

/-- A store whose file holds a text. -/
structure FileStore.HasText (store : FileStore) (text : String) : Prop where
  healthy : store.poisoned = false
  content : store.disk.target = .file (Utf8.encode text.toList)

theorem Config.parse_of_writes {rows : List Row} {text : String} (h : Row.Writes rows text) :
    Config.parse text =
      if KnownField.Accepts Config.fields (Row.entries rows) then
        .ok (KnownField.overrideAll Config.fields Config.default (Row.entries rows))
      else .error .fileUnparsable := by
  have hparse := bind_parse_of_writes Config.ofEntries_eq_record? h
  rw [KnownField.record?] at hparse
  split
  · rename_i haccepts
    rw [if_pos haccepts] at hparse
    simp only [Config.parse, hparse]
  · rename_i hrefuses
    rw [if_neg hrefuses] at hparse
    simp only [Config.parse, hparse]

theorem FileStore.HasText.load_of_writes {store : FileStore} {rows : List Row} {text : String}
    (hstore : store.HasText text) (h : Row.Writes rows text) :
    store.load =
      if KnownField.Accepts Settings.fields (Row.entries rows) then
        .ok (KnownField.overrideAll Settings.fields Settings.default (Row.entries rows))
      else .error .parse := by
  have htext : store.disk.target.readText = .ok text := by
    rw [hstore.content, DiskEntry.readText, Utf8.text?_encode]
  have hload : store.load = FileStore.read store.disk := by
    simp [FileStore.load, hstore.healthy]
  have hparse : Settings.parse? text = _ := bind_parse_of_writes Settings.ofEntries_eq_record? h
  rw [KnownField.record?] at hparse
  rw [hload]
  split
  · rename_i haccepts
    rw [if_pos haccepts] at hparse
    simp only [FileStore.read, htext, hparse]
  · rename_i hrefuses
    rw [if_neg hrefuses] at hparse
    simp only [FileStore.read, htext, hparse]

/-- A document overrides the defaults field by field: in the defaults exactly the fields that it
names are replaced. It is refused as a whole if a name is given twice, or a field that it names
is given a value of another type or out of range. The order of its rows does not matter. -/
theorem documents_override_defaults {rows : List Row} {text : String} (h : Row.Writes rows text) :
    (Config.parse text =
      if KnownField.Accepts Config.fields (Row.entries rows) then
        .ok (KnownField.overrideAll Config.fields Config.default (Row.entries rows))
      else .error .fileUnparsable) ∧
    (∀ store : FileStore, store.HasText text →
      store.load =
        if KnownField.Accepts Settings.fields (Row.entries rows) then
          .ok (KnownField.overrideAll Settings.fields Settings.default (Row.entries rows))
        else .error .parse) ∧
    ∀ (rows' : List Row) (text' : String), rows.Perm rows' → Row.Writes rows' text' →
      Config.parse text' = Config.parse text ∧
      ∀ store store' : FileStore, store.HasText text → store'.HasText text' →
        store'.load = store.load := by
  refine ⟨?_, ?_, ?_⟩
  · exact Config.parse_of_writes h
  · exact fun store hstore => hstore.load_of_writes h
  · intro rows' text' hperm h'
    have hentries : (Row.entries rows).Perm (Row.entries rows') := hperm.filterMap _
    constructor
    · rw [Config.parse_of_writes h, Config.parse_of_writes h']
      exact Config.lawful_fields.answer_perm Except.ok _ Config.default hentries
    · intro store store' hstore hstore'
      rw [hstore.load_of_writes h, hstore'.load_of_writes h']
      exact Settings.lawful_fields.answer_perm Except.ok _ Settings.default hentries

/-- A remark, a field with a remark behind it, a name that no field has, and a field in quotes. -/
def trialRows : List Row :=
  [⟨⟨[], by decide⟩, none, ⟨[], by decide⟩, some ⟨" lab".toList, by decide⟩⟩,
    ⟨⟨[], by decide⟩,
      some ⟨"strict_http_status".toList, "strict_http_status", by decide, ⟨[' '], by decide⟩,
        ⟨[' '], by decide⟩, "false".toList, .scalar (.boolean false), .value rfl⟩,
      ⟨[' '], by decide⟩, some ⟨" until May".toList, by decide⟩⟩,
    ⟨⟨[' '], by decide⟩,
      some ⟨"rack".toList, "rack", by decide, ⟨[' '], by decide⟩, ⟨[], by decide⟩,
        "[1, \x7bshelf = 2\x7d]".toList,
        .array [.scalar (.integer 1), .inlineTable [("shelf", .scalar (.integer 2))]], .value rfl⟩,
      ⟨[], by decide⟩, none⟩,
    ⟨⟨[], by decide⟩,
      some ⟨"'failure_maximum'".toList, "failure_maximum", by decide, ⟨[], by decide⟩,
        ⟨['\t'], by decide⟩, "4294967295".toList, .scalar (.integer 4294967295), .integer rfl⟩,
      ⟨[], by decide⟩, none⟩]

def trialText : String :=
  "# lab\nstrict_http_status = false # until May\r\n rack =[1, \x7bshelf = 2\x7d]\n" ++
    "'failure_maximum'=\t4294967295"

def trialDisk (text : String) : Disk :=
  ⟨.file (Utf8.encode text.toList), .missing, true⟩

theorem documents_override_defaults_trial :
    Config.parse trialText =
      .ok { Config.default with strictStatus := false, failureMaximum := 4294967295 } ∧
    (FileStore.new (trialDisk trialText)).load = .ok Settings.default ∧
    Config.parse (String.ofList (Row.join trialRows.reverse)) = Config.parse trialText := by
  have hwrites : Row.Writes trialRows trialText := by
    unfold Row.Writes
    decide
  have hreverse : Row.Writes trialRows.reverse (String.ofList (Row.join trialRows.reverse)) := by
    unfold Row.Writes
    rw [String.toList_ofList]
    decide
  obtain ⟨hconfig, hsettings, hreorder⟩ := documents_override_defaults hwrites
  refine ⟨?_, ?_, ?_⟩
  · rw [hconfig, if_pos (by decide)]
    rfl
  · rw [hsettings _ ⟨rfl, rfl⟩, if_pos (by decide)]
    rfl
  · exact (hreorder _ _ (List.reverse_perm _).symm hreverse).1

example : Config.parse "failure_maximum = 4294967296" = .error .fileUnparsable := by
  decide

end KeyProvisioning
