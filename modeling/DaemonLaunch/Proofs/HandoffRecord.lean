import DaemonLaunch.Launch.Handoff

/-!
Records of reports. A report that can be true is read back from its record, and no other report is
read from any record.
-/

namespace DaemonLaunch.Handoff

/-- A report that can be true: the daemon that it names can exist. -/
def Proper : Handoff → Prop
  | daemon pid => 0 < pid.number
  | noSession _ => True
  | noFork _ => True

theorem length_bytes (h : Handoff) : h.bytes.length = size := rfl

theorem ofWords_tag_value (h : Handoff) (hproper : h.Proper) : ofWords h.tag h.value = .ok h := by
  cases h with
  | daemon pid => exact if_pos ⟨rfl, hproper⟩
  | noSession errno => simp [ofWords, tag, value]
  | noFork errno => simp [ofWords, tag, value]

theorem ofBytes_bytes (h : Handoff) (hproper : h.Proper) : ofBytes h.bytes = .ok h := by
  have hread := ofBytes_words_append h.tag h.value []
  rw [List.append_nil] at hread
  rw [bytes, hread, ofWords_tag_value h hproper]

theorem proper_of_ofWords {tag value : Int32} {h : Handoff} (hread : ofWords tag value = .ok h) :
    h.Proper := by
  rw [ofWords] at hread
  split at hread
  case isTrue hdaemon =>
    cases hread
    exact hdaemon.2
  case isFalse =>
    split at hread
    case isTrue =>
      cases hread
      trivial
    case isFalse =>
      split at hread
      · cases hread
        trivial
      · cases hread

/-- Whatever bytes arrive, a report that is read from them can be true. -/
theorem proper_of_ofBytes {bytes : List UInt8} {h : Handoff} (hread : ofBytes bytes = .ok h) :
    h.Proper := by
  unfold ofBytes at hread
  split at hread
  · exact proper_of_ofWords hread
  · cases hread

theorem proper_of_decode {bytes : List UInt8} {h : Handoff} (hread : decode bytes = .ok h) :
    h.Proper := by
  rw [decode] at hread
  rcases hbytes : ofBytes bytes with cause | report
  · rw [hbytes] at hread
    cases hread
  · rw [hbytes] at hread
    cases hread
    exact proper_of_ofBytes hbytes

end DaemonLaunch.Handoff
