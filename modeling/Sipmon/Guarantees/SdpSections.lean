import Sipmon.Source.Sdp

/-!
# SDP attributes and the section they are written in

`parseSdp` gathers the `a=rtpmap` lines of the whole body, and attaches each to every
media line that lists its payload type. That is the section it is written in exactly
when no rtpmap from elsewhere shares a payload type with a section.
-/
namespace Sipmon.Guarantees.SdpSections
open Source Text
open Lib.ByteReader (Bytes)

/-! ## The body, section by section -/

/-- The value of an `a=rtpmap` attribute. -/
def rtpmapOf (val : Chars) : Option SdpCodec := do
  let rest ← stripPrefix "rtpmap:".toList val
  let (ptText, desc) ← splitOnce ' ' rest
  let pt ← parseU8 (trim ptText)
  let parts := split '/' (trim desc)
  let clock := UInt32.ofNat ((parts[1]?.bind (parseUnsigned (2 ^ 32))).getD 8000)
  return { pt, name := String.ofList (parts.headD []), clockRate := clock }

/-- The payload types an `m=` line lists. -/
def formatsOf (val : Chars) : List String := ((splitWhitespace val).drop 3).map String.ofList

/-- A media section: the formats of its `m=` line and the rtpmaps up to the next. -/
structure Section where
  formats : List String
  rtpmaps : List SdpCodec
  deriving DecidableEq

def Section.lists (s : Section) (c : SdpCodec) : Bool := s.formats.contains (toString c.pt.toNat)

/-- The rtpmaps above the first section, and the sections. -/
structure Sections where
  above : List SdpCodec := []
  sections : List Section := []
  deriving DecidableEq

namespace Sections

/-- From the last line up: what is read below a line belongs to it when it opens a section. -/
def ofLines : List Chars → Sections
  | [] => {}
  | text :: rest =>
    let below := ofLines rest
    match splitOnce '=' (trim text) with
    | some (['m'], val) =>
      { sections := { formats := formatsOf (trim val), rtpmaps := below.above } :: below.sections }
    | some (['a'], val) => { below with above := (rtpmapOf (trim val)).toList ++ below.above }
    | _ => below

def ofBody (body : Bytes) : Sections :=
  match fromUtf8 body with
  | some text => ofLines (lines text.toList)
  | none => {}

/-- All rtpmaps, in the order of the body. -/
def rtpmaps (doc : Sections) : List SdpCodec := doc.above ++ doc.sections.flatMap Section.rtpmaps

/-- No section lists the payload type of an rtpmap that is written elsewhere. -/
def Unshared (doc : Sections) : Prop :=
  ∀ before s after, doc.sections = before ++ s :: after →
    ∀ c ∈ doc.above ++ before.flatMap Section.rtpmaps ++ after.flatMap Section.rtpmaps, s.lists c = false

end Sections

/-- A media line has the formats of the section, and exactly those of its rtpmaps that
the formats list. -/
def Resolved (m : SdpMedia) (s : Section) : Prop :=
  m.formats = s.formats ∧ m.codecs = s.rtpmaps.filter s.lists

/-! ## The scan -/

/-- Formats and codecs of the media lines so far, the open one included. -/
def shape (scan : SdpScan) : List (List String × List SdpCodec) :=
  scan.close.session.media.map fun m => (m.formats, m.codecs)

section Line

variable (scan : SdpScan) {text val : Chars} {rest : List Chars}

theorem line_media (opens : splitOnce '=' (trim text) = some (['m'], val)) :
    (scan.line text).rtpmap = scan.rtpmap ∧
      shape (scan.line text) = shape scan ++ [(formatsOf (trim val), [])] := by
  have media : scan.line text = scan.mediaLine (trim val) := by simp [SdpScan.line, opens]
  rw [media]
  obtain ⟨session, current, rtpmap⟩ := scan
  cases current <;> simp [SdpScan.mediaLine, shape, SdpScan.close, formatsOf]

theorem line_attribute (holds : splitOnce '=' (trim text) = some (['a'], val)) :
    (scan.line text).rtpmap = scan.rtpmap ++ (rtpmapOf (trim val)).toList ∧
      shape (scan.line text) = shape scan := by
  have entry : scan.line text = scan.attributeLine (trim val) := by simp [SdpScan.line, holds]
  rw [entry]
  unfold SdpScan.attributeLine
  dsimp only
  split
  · next codec found =>
    have read : rtpmapOf (trim val) = some codec := found
    rw [read]
    obtain ⟨session, current, rtpmap⟩ := scan
    cases current <;> exact ⟨rfl, rfl⟩
  · next found =>
    have unread : rtpmapOf (trim val) = none := found
    rw [unread]
    exact ⟨(List.append_nil _).symm, rfl⟩

theorem line_other (opens : ∀ val, splitOnce '=' (trim text) ≠ some (['m'], val))
    (holds : ∀ val, splitOnce '=' (trim text) ≠ some (['a'], val)) :
    (scan.line text).rtpmap = scan.rtpmap ∧ shape (scan.line text) = shape scan := by
  obtain ⟨session, current, rtpmap⟩ := scan
  unfold SdpScan.line
  split
  · cases current <;> simp [SdpScan.connectionLine, shape, SdpScan.close]
  · next val isMedia => exact absurd isMedia (opens val)
  · next val isAttribute => exact absurd isAttribute (holds val)
  · exact ⟨rfl, rfl⟩

theorem ofLines_other (opens : ∀ val, splitOnce '=' (trim text) ≠ some (['m'], val))
    (holds : ∀ val, splitOnce '=' (trim text) ≠ some (['a'], val)) :
    Sections.ofLines (text :: rest) = Sections.ofLines rest := by
  rw [Sections.ofLines]
  split
  · next val isMedia => exact absurd isMedia (opens val)
  · next val isAttribute => exact absurd isAttribute (holds val)
  · rfl

end Line

/-- The scan gathers the rtpmaps of all sections, and opens the sections without codecs. -/
theorem scan_lines (ls : List Chars) (scan : SdpScan) :
    (ls.foldl SdpScan.line scan).rtpmap = scan.rtpmap ++ (Sections.ofLines ls).rtpmaps ∧
      shape (ls.foldl SdpScan.line scan) =
        shape scan ++ (Sections.ofLines ls).sections.map fun s => (s.formats, []) := by
  induction ls generalizing scan with
  | nil => exact ⟨(List.append_nil _).symm, (List.append_nil _).symm⟩
  | cons text rest ih =>
    obtain ⟨maps, shapes⟩ := ih (scan.line text)
    rw [List.foldl_cons, maps, shapes]
    by_cases opens : ∃ val, splitOnce '=' (trim text) = some (['m'], val)
    · obtain ⟨val, opens⟩ := opens
      obtain ⟨sameMaps, opened⟩ := line_media scan opens
      have read : Sections.ofLines (text :: rest) =
          { sections := { formats := formatsOf (trim val), rtpmaps := (Sections.ofLines rest).above } ::
              (Sections.ofLines rest).sections } := by simp [Sections.ofLines, opens]
      rw [sameMaps, opened, read]
      simp [Sections.rtpmaps]
    · by_cases holds : ∃ val, splitOnce '=' (trim text) = some (['a'], val)
      · obtain ⟨val, holds⟩ := holds
        obtain ⟨added, sameShape⟩ := line_attribute scan holds
        have read : Sections.ofLines (text :: rest) =
            { Sections.ofLines rest with
              above := (rtpmapOf (trim val)).toList ++ (Sections.ofLines rest).above } := by
          simp [Sections.ofLines, holds]
        rw [added, sameShape, read]
        simp [Sections.rtpmaps]
      · rw [not_exists] at opens holds
        obtain ⟨sameMaps, sameShape⟩ := line_other scan opens holds
        rw [sameMaps, sameShape, ofLines_other opens holds]
        exact ⟨rfl, rfl⟩

theorem parseSdp_media {body : Bytes} {session : SdpSession} (parsed : parseSdp body = some session) :
    session.media.map (fun m => (m.formats, m.codecs)) =
      (Sections.ofBody body).sections.map fun s =>
        (s.formats, (Sections.ofBody body).rtpmaps.filter s.lists) := by
  cases utf8 : fromUtf8 body with
  | none =>
    rw [parseSdp, utf8] at parsed
    exact absurd parsed (by simp)
  | some text =>
    have read : Sections.ofBody body = Sections.ofLines (lines text.toList) := by
      rw [Sections.ofBody, utf8]
    rw [parseSdp, utf8] at parsed
    replace parsed := Option.some_inj.mp parsed
    obtain ⟨maps, shapes⟩ := scan_lines (lines text.toList) {}
    rw [← read] at maps shapes
    generalize (lines text.toList).foldl SdpScan.line {} = scan at parsed maps shapes
    have closed : scan.close.rtpmap = (Sections.ofBody body).rtpmaps := by
      unfold SdpScan.close
      split <;> exact maps
    have none_open : shape {} = [] := rfl
    rw [none_open, List.nil_append] at shapes
    have attached : session.media.map (fun m => (m.formats, m.codecs)) = (shape scan).map fun m =>
        (m.1, m.2 ++ (Sections.ofBody body).rtpmaps.filter fun c => m.1.contains (toString c.pt.toNat)) := by
      rw [← parsed, shape, closed, List.map_map, List.map_map]
      rfl
    rw [attached, shapes, List.map_map]
    rfl

theorem ofBody_of_unparsed {body : Bytes} (unparsed : parseSdp body = none) :
    (Sections.ofBody body).sections = [] := by
  cases utf8 : fromUtf8 body with
  | none => rw [Sections.ofBody, utf8]
  | some text =>
    rw [parseSdp, utf8] at unparsed
    exact absurd unparsed (Option.some_ne_none _)

/-! ## Sharing -/

/-- A filter of three parts is that of the middle when the others have nothing to keep. -/
theorem filter_middle_iff {α : Type} (p : α → Bool) (front middle back : List α) :
    (front ++ middle ++ back).filter p = middle.filter p ↔ ∀ a ∈ front ++ back, p a = false := by
  have length : ((front ++ middle ++ back).filter p).length =
      ((front ++ back).filter p).length + (middle.filter p).length := by
    simp only [List.filter_append, List.length_append]
    omega
  constructor
  · intro same a member
    have nothing : (front ++ back).filter p = [] := by
      rw [same] at length
      exact List.length_eq_zero_iff.mp (by omega)
    simpa using List.filter_eq_nil_iff.mp nothing a member
  · intro unkept
    have front_nil : front.filter p = [] :=
      List.filter_eq_nil_iff.mpr fun a member => by simp [unkept a (List.mem_append_left _ member)]
    have back_nil : back.filter p = [] :=
      List.filter_eq_nil_iff.mpr fun a member => by simp [unkept a (List.mem_append_right _ member)]
    rw [List.filter_append, List.filter_append, front_nil, back_nil, List.nil_append, List.append_nil]

theorem Sections.rtpmaps_split {doc : Sections} {before after : List Section} {s : Section}
    (at_s : doc.sections = before ++ s :: after) :
    doc.rtpmaps = doc.above ++ before.flatMap Section.rtpmaps ++ s.rtpmaps ++
      after.flatMap Section.rtpmaps := by
  rw [rtpmaps, at_s, List.flatMap_append, List.flatMap_cons]
  simp only [List.append_assoc]

/-- Every section has its own rtpmaps alone. -/
theorem Sections.unshared_iff (doc : Sections) :
    doc.Unshared ↔ ∀ s ∈ doc.sections, doc.rtpmaps.filter s.lists = s.rtpmaps.filter s.lists := by
  constructor
  · intro unshared s member
    obtain ⟨before, after, at_s⟩ := List.append_of_mem member
    rw [rtpmaps_split at_s, filter_middle_iff]
    exact unshared before s after at_s
  · intro own before s after at_s
    rw [← filter_middle_iff s.lists _ s.rtpmaps, ← rtpmaps_split at_s]
    exact own s (by simp [at_s])

/-- Media lines with the formats of the sections and the rtpmaps of the body. -/
theorem resolved_iff {media : List SdpMedia} {sections : List Section} {all : List SdpCodec}
    (read : media.map (fun m => (m.formats, m.codecs)) =
      sections.map fun s => (s.formats, all.filter s.lists)) :
    List.Forall₂ Resolved media sections ↔
      ∀ s ∈ sections, all.filter s.lists = s.rtpmaps.filter s.lists := by
  induction sections generalizing media with
  | nil =>
    have none_read : media = [] := by simpa using read
    simp [none_read]
  | cons s rest ih =>
    cases media with
    | nil => exact absurd read (by simp)
    | cons m more =>
      simp only [List.map_cons, List.cons.injEq, Prod.mk.injEq] at read
      obtain ⟨⟨formats, codecs⟩, tail⟩ := read
      rw [List.forall₂_cons, ih tail, List.forall_mem_cons, Resolved, codecs]
      exact and_congr_left fun _ => and_iff_right formats

/-- Over a body: each section filters the rtpmaps of the whole. -/
theorem resolved_body_iff (body : Bytes) :
    (∀ session, parseSdp body = some session →
      List.Forall₂ Resolved session.media (Sections.ofBody body).sections) ↔
    ∀ s ∈ (Sections.ofBody body).sections,
      (Sections.ofBody body).rtpmaps.filter s.lists = s.rtpmaps.filter s.lists := by
  constructor
  · intro resolved
    cases parsed : parseSdp body with
    | none =>
      intro s member
      rw [ofBody_of_unparsed parsed] at member
      exact absurd member List.not_mem_nil
    | some session => exact (resolved_iff (parseSdp_media parsed)).mp (resolved session parsed)
  · intro own session parsed
    exact (resolved_iff (parseSdp_media parsed)).mpr own

/-- The media lines of a body have exactly the rtpmaps of their sections when no section
lists the payload type of an rtpmap written elsewhere, and only then. -/
theorem sections_resolved_iff (body : Bytes) :
    (∀ session, parseSdp body = some session →
      List.Forall₂ Resolved session.media (Sections.ofBody body).sections) ↔
    (Sections.ofBody body).Unshared := by
  rw [resolved_body_iff, Sections.unshared_iff]

/-- Audio and video both use the dynamic payload type 96. -/
def sharedType : Bytes :=
  ("m=audio 5004 RTP/AVP 96\r\na=rtpmap:96 opus/48000\r\n" ++
    "m=video 5006 RTP/AVP 96\r\na=rtpmap:96 VP8/90000\r\n").toUTF8.toList

/-- Both sections get both codecs. -/
theorem shared_type_leaks :
    ¬∀ session, parseSdp sharedType = some session →
      List.Forall₂ Resolved session.media (Sections.ofBody sharedType).sections := by
  rw [resolved_body_iff]
  have read : Sections.ofBody sharedType =
      { sections := [⟨["96"], [⟨96, "opus", 48000⟩]⟩, ⟨["96"], [⟨96, "VP8", 90000⟩]⟩] } := by
    decide +kernel
  rw [read]
  intro own
  have audio := own _ List.mem_cons_self
  exact absurd audio (by decide)

end Sipmon.Guarantees.SdpSections
