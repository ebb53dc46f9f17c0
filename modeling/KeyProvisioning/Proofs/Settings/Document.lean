import KeyProvisioning.Proofs.Toml.Bounds
import KeyProvisioning.Proofs.Toml.Lines
import KeyProvisioning.Settings.Basic

/-!
# Reading settings back

The document of settings is read back as the same settings. Only the two counts of 64 bits can be
too great for a document; the two of 32 bits and every text can be written.
-/

namespace KeyProvisioning

open Toml (Line Node IsBare)

/-! ## The lines -/

namespace Toml.Line

/-- The line of a count that can be written. -/
def ofCount (name : String) (bare : IsBare name) (n : Nat) (h : (n : Int) ≤ maxInteger) :
    Line where
  name := name
  written := toString n
  node := .scalar (.integer n)
  bare := bare
  reads := readsAs_writeCount (by simp [Writer.writeCount?, h])
  joined := by
    intro hmem
    rw [Nat.toString_eq_ofList_toDigits, String.toList_ofList] at hmem
    exact absurd (isDigit_of_mem_decimalDigits hmem) (by decide)

/-- The line of a text. -/
def ofText (name : String) (bare : IsBare name) (text : String) : Line where
  name := name
  written := Writer.writeString text
  node := .scalar (.string text)
  bare := bare
  reads := readsAs_writeString text
  joined := by
    rw [Writer.writeString, String.toList_ofList]
    exact carriageReturn_not_mem_writeAs text.toList

end Toml.Line

namespace Settings

/-- Settings whose counts are all integers of a document. -/
structure IsWritable (settings : Settings) : Prop where
  expiring : (settings.expiringByMillis.toNat : Int) ≤ Toml.maxInteger
  refresh : (settings.refreshSeconds.toNat : Int) ≤ Toml.maxInteger

instance (settings : Settings) : Decidable settings.IsWritable :=
  decidable_of_iff (_ ∧ _) ⟨fun h => ⟨h.1, h.2⟩, fun h => ⟨h.expiring, h.refresh⟩⟩

theorem toNat_le_maxInteger (count : UInt32) : (count.toNat : Int) ≤ Toml.maxInteger := by
  have hlt := count.toNat_lt
  simp only [Toml.maxInteger]
  omega

/-- The lines of the document of settings. -/
def lines (settings : Settings) (h : settings.IsWritable) : List Line :=
  [.ofCount "extra_signed_keys_available" (by decide) settings.extraKeys.toNat
      (toNat_le_maxInteger settings.extraKeys),
    .ofCount "expiring_by_ms" (by decide) settings.expiringByMillis.toNat h.expiring,
    .ofCount "refresh_interval_secs" (by decide) settings.refreshSeconds.toNat h.refresh,
    .ofText "provisioning_url" (by decide) settings.serverUrl,
    .ofCount "failure_counter" (by decide) settings.failures.toNat
      (toNat_le_maxInteger settings.failures)]

theorem render?_of_isWritable {settings : Settings} (h : settings.IsWritable) :
    settings.render? = some (String.ofList ((settings.lines h).flatMap Line.text)) := by
  have hextra := toNat_le_maxInteger settings.extraKeys
  have hfailures := toNat_le_maxInteger settings.failures
  simp only [render?, Toml.Writer.writeCount?, if_pos h.expiring, if_pos h.refresh, if_pos hextra,
    if_pos hfailures, Option.bind_eq_bind, Option.bind_some, Option.pure_def, Option.some.injEq]
  apply String.toList_inj.mp
  simp [lines, Line.text, Line.ofCount, Line.ofText]

/-- Exactly the settings with a count too great for a document cannot be written. -/
theorem render?_eq_none_iff (settings : Settings) :
    settings.render? = none ↔ ¬ settings.IsWritable := by
  constructor
  · intro hnone hwritable
    rw [render?_of_isWritable hwritable] at hnone
    cases hnone
  · intro hnot
    simp only [render?, Toml.Writer.writeCount?]
    by_cases hexpiring : (settings.expiringByMillis.toNat : Int) ≤ Toml.maxInteger
    · have hrefresh : ¬ (settings.refreshSeconds.toNat : Int) ≤ Toml.maxInteger := fun h =>
        hnot ⟨hexpiring, h⟩
      simp [if_neg hrefresh]
    · simp [if_neg hexpiring]

theorem uint32?_toNat (count : UInt32) :
    (Node.scalar (.integer count.toNat)).uint32? = some count := by
  have hlt : count.toNat < UInt32.size := count.toNat_lt
  have hbelow : (Node.scalar (.integer count.toNat)).natBelow? UInt32.size = some count.toNat :=
    if_pos hlt
  rw [Node.uint32?, hbelow, Option.map_some, UInt32.ofNat_toNat]

theorem uint64?_toNat (count : UInt64) :
    (Node.scalar (.integer count.toNat)).uint64? = some count := by
  have hlt : count.toNat < UInt64.size := count.toNat_lt
  have hbelow : (Node.scalar (.integer count.toNat)).natBelow? UInt64.size = some count.toNat :=
    if_pos hlt
  rw [Node.uint64?, hbelow, Option.map_some, UInt64.ofNat_toNat]

/-- Every field is read from its own line. -/
theorem ofEntries_lines {settings : Settings} (h : settings.IsWritable) :
    ofEntries ((settings.lines h).map Line.entry) = some settings := by
  simp [ofEntries, lines, Line.entry, Line.ofCount, Line.ofText, Toml.Entries.field,
    Toml.Entries.get?, uint32?_toNat, uint64?_toNat, Node.string?]

/-- The document of settings is read back as these settings. -/
theorem parse?_render? {settings : Settings} {text : String} (h : settings.render? = some text) :
    parse? text = some settings := by
  have hwritable : settings.IsWritable := by
    apply Decidable.byContradiction
    intro hnot
    rw [(render?_eq_none_iff settings).mpr hnot] at h
    cases h
  have hnames : ((settings.lines hwritable).map Line.name).Nodup := by
    simp only [lines, Line.ofCount, Line.ofText, List.map_cons, List.map_nil]
    decide
  rw [render?_of_isWritable hwritable, Option.some.injEq] at h
  subst h
  rw [parse?, Line.parse_text hnames, Option.bind_some, ofEntries_lines]

/-! ## What can be read -/

theorem isWritable_default : default.IsWritable := by
  decide

/-- Settings that were read can be written again. -/
theorem isWritable_of_parse? {settings : Settings} {text : String}
    (h : parse? text = some settings) :
    settings.IsWritable := by
  obtain ⟨entries, hparse, hentries⟩ := Option.bind_eq_some_iff.mp h
  have hbounded := Toml.isBounded_of_parse hparse
  simp only [ofEntries, Option.bind_eq_bind, Option.bind_eq_some_iff] at hentries
  obtain ⟨extraKeys, -, expiring, hexpiring, refresh, hrefresh, url, -, failures, -, hsettings⟩ :=
    hentries
  obtain rfl := Option.some.inj hsettings
  constructor
  · exact hbounded.field_uint64? isWritable_default.expiring hexpiring
  · exact hbounded.field_uint64? isWritable_default.refresh hrefresh

end Settings

end KeyProvisioning
