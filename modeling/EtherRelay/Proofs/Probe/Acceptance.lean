import EtherRelay.Probe

/-!
# Which frames are probes

The fields that tell a probe from other frames have fixed places. Two bytes say whether a tag
follows, and the low twelve bits of the tag are the VLAN id. What a frame decodes to depends on
its length and on these two fields alone, and `Probe.isProbe` draws the same line as
`Stamps.decode`.

`Stamps.read?` decodes by slices, each of which has to lie inside of what it is cut from. Since
it always succeeds, no frame can bring a slice out of range.
-/

namespace EtherRelay.Probe

/-- The bytes of the two addresses and of the type behind them. -/
def ethernetLength : Nat := 14

/-- The type behind the addresses says that a tag follows. -/
def Tagged (frame : Bytes) : Prop := (frame.drop 12).take 2 = [0x81, 0x00]

instance : DecidablePred Tagged :=
  fun frame => inferInstanceAs (Decidable ((frame.drop 12).take 2 = [0x81, 0x00]))

/-- The low twelve bits of the tag. The four bits above them are its priority. -/
def tagId (frame : Bytes) : Nat :=
  Wire.ofBigEndian ((frame.drop ethernetLength).take 2) % 0x1000

/-- A frame that is cut off in front of its VLAN id. -/
def CutInHeader (frame : Bytes) : Prop :=
  frame.length < ethernetLength ∨ Tagged frame ∧ frame.length < headerLength

theorem tagId_lt (frame : Bytes) : tagId frame < 0x1000 := Nat.mod_lt _ (by decide)

theorem toNat_tagId (frame : Bytes) : (UInt16.ofNat (tagId frame)).toNat = tagId frame := by
  have h := tagId_lt frame
  rw [UInt16.toNat_ofNat']
  exact Nat.mod_eq_of_lt (by omega)

/-- The id of the tag is that of probes just if the words are the same. -/
theorem ofNat_tagId_eq {frame : Bytes} {id : UInt16} :
    UInt16.ofNat (tagId frame) = id ↔ tagId frame = id.toNat := by
  rw [← UInt16.toNat_inj, toNat_tagId]

theorem ofBigEndian_pair (high low : UInt8) :
    Wire.ofBigEndian [high, low] = high.toNat * 256 + low.toNat := by
  simp [Wire.ofBigEndian, Wire.ofLittleEndian]
  omega

/-! ## The header -/

variable {frame : Bytes}

theorem tagged_iff : Tagged frame ↔ ∃ tag, frame.drop 12 = 0x81 :: 0x00 :: tag := by
  rw [Tagged]
  constructor
  · intro h
    rw [← List.take_append_drop 2 (frame.drop 12), h]
    exact ⟨_, rfl⟩
  · rintro ⟨tag, h⟩
    rw [h]
    rfl

/-- Behind the addresses and the type, as many bytes follow as the frame is longer. -/
theorem length_eq_of_drop {t₀ t₁ : UInt8} {tag : Bytes} (h : frame.drop 12 = t₀ :: t₁ :: tag) :
    frame.length = ethernetLength + tag.length := by
  have hlength := congrArg List.length h
  rw [List.length_drop, List.length_cons, List.length_cons] at hlength
  rw [ethernetLength]
  omega

theorem vlanOf_of_short (h : frame.length < ethernetLength) :
    vlanOf frame = .error (.truncated frame.length headerLength) := by
  rw [vlanOf]
  split
  · next hrest =>
    rw [length_eq_of_drop hrest] at h
    omega
  · rfl

theorem vlanOf_of_untagged (h : ethernetLength ≤ frame.length) (ht : ¬Tagged frame) :
    vlanOf frame = .error .notVlan := by
  rw [vlanOf]
  split
  · next t₀ t₁ tag hrest =>
    rw [if_neg]
    rintro ⟨rfl, rfl⟩
    exact ht (tagged_iff.mpr ⟨tag, hrest⟩)
  · next hrest =>
    exfalso
    rw [ethernetLength] at h
    match hbytes : frame.drop 12 with
    | t₀ :: t₁ :: tag => exact hrest t₀ t₁ tag hbytes
    | [_] | [] =>
        have hlength := congrArg List.length hbytes
        rw [List.length_drop] at hlength
        simp at hlength
        omega

/-- A tag is there once four bytes of it are. -/
theorem vlanOf_of_tagged (ht : Tagged frame) (h : headerLength ≤ frame.length) :
    vlanOf frame = .ok (UInt16.ofNat (tagId frame)) := by
  obtain ⟨tag, hrest⟩ := tagged_iff.mp ht
  have hlength := length_eq_of_drop hrest
  have htag : frame.drop ethernetLength = tag := by
    have hdrop := congrArg (List.drop 2) hrest
    rwa [List.drop_drop] at hdrop
  rw [headerLength, hlength, ethernetLength] at h
  rw [vlanOf, hrest, tagId, htag]
  match tag with
  | high :: low :: _ :: _ :: _ =>
      have hid : (high.toNat * 256 + low.toNat) % 0x1000 = high.toNat % 16 * 256 + low.toNat := by
        have := low.toNat_lt
        omega
      rw [List.take_succ_cons, List.take_succ_cons, List.take_zero, ofBigEndian_pair, hid]
      rfl
  | [_, _, _] | [_, _] | [_] | [] =>
      simp at h

theorem vlanOf_of_cut (ht : Tagged frame) (h : frame.length < headerLength) :
    vlanOf frame = .error (.truncated frame.length headerLength) := by
  obtain ⟨tag, hrest⟩ := tagged_iff.mp ht
  have hlength := length_eq_of_drop hrest
  rw [headerLength, hlength, ethernetLength] at h
  rw [vlanOf, hrest]
  match tag with
  | [_, _, _] | [_, _] | [_] | [] => rfl
  | _ :: _ :: _ :: _ :: _ =>
      simp only [List.length_cons] at h
      omega

/-- What the header of a frame is read as, by its length and its fields. -/
theorem vlanOf_cases (frame : Bytes) :
    (CutInHeader frame ∧ vlanOf frame = .error (.truncated frame.length headerLength)) ∨
      (ethernetLength ≤ frame.length ∧ ¬Tagged frame ∧ vlanOf frame = .error .notVlan) ∨
      (headerLength ≤ frame.length ∧ Tagged frame ∧
        vlanOf frame = .ok (UInt16.ofNat (tagId frame))) := by
  by_cases hshort : frame.length < ethernetLength
  · exact .inl ⟨.inl hshort, vlanOf_of_short hshort⟩
  · have hlong := Nat.le_of_not_lt hshort
    by_cases ht : Tagged frame
    · by_cases hcut : frame.length < headerLength
      · exact .inl ⟨.inr ⟨ht, hcut⟩, vlanOf_of_cut ht hcut⟩
      · have hcomplete := Nat.le_of_not_lt hcut
        exact .inr (.inr ⟨hcomplete, ht, vlanOf_of_tagged ht hcomplete⟩)
    · exact .inr (.inl ⟨hlong, ht, vlanOf_of_untagged hlong ht⟩)

theorem isProbe_eq_true_iff :
    isProbe frame = true ↔ 18 ≤ frame.length ∧ Tagged frame ∧ tagId frame = 0x0ABC := by
  rw [isProbe]
  rcases vlanOf_cases frame with ⟨hcut, h⟩ | ⟨_, hunmarked, h⟩ | ⟨hlong, ht, h⟩
  · rw [h]
    simp only [Bool.false_eq_true, false_iff]
    rintro ⟨hlong, ht, _⟩
    rcases hcut with hshort | ⟨_, hshort⟩
    · rw [ethernetLength] at hshort
      omega
    · rw [headerLength] at hshort
      omega
  · rw [h]
    simp only [Bool.false_eq_true, hunmarked, false_and, and_false]
  · rw [h]
    simp only [beq_iff_eq, ofNat_tagId_eq, ht, true_and]
    exact ⟨fun hid => ⟨hlong, hid⟩, fun hid => hid.2⟩

/-! ## Outcomes -/

/-- The word of eight bytes at a place of a frame, least significant byte first. -/
def wordAt (frame : Bytes) (place : Nat) : UInt64 :=
  UInt64.ofNat (Wire.ofLittleEndian ((frame.drop place).take 8))

/-- The counters of a hop behind the header of a frame. -/
def hopAt (frame : Bytes) (hop : Nat) : Hop where
  sync := wordAt frame (headerLength + 16 * hop)
  tick := wordAt frame (headerLength + 16 * hop + 8)

theorem hop_decode_drop (hop : Nat) :
    Hop.decode ((frame.drop headerLength).drop (16 * hop)) = hopAt frame hop := by
  rw [Hop.decode, List.drop_drop, List.drop_drop]
  rfl

theorem decode_of_error {e : Error} (h : vlanOf frame = .error e) :
    Stamps.decode frame = .error e := by
  rw [Stamps.decode, h]
  rfl

theorem decode_of_ok {id : UInt16} (h : vlanOf frame = .ok id) :
    Stamps.decode frame =
      if id ≠ vlanId then .error (.wrongVlan id)
      else match Stamps.decodePayload (frame.drop headerLength) with
        | some stamps => .ok stamps
        | none => .error (.truncated frame.length frameLength) := by
  rw [Stamps.decode, h]
  by_cases hid : id = vlanId
  · rw [if_neg (not_not_intro hid), hid]
    rfl
  · rw [if_pos hid]
    simp only [bind, Except.bind, if_pos hid, throw, throwThe, MonadExceptOf.throw]

theorem vlanOf_of_isProbe (h : isProbe frame = true) : vlanOf frame = .ok vlanId := by
  rw [isProbe] at h
  split at h
  · next id hid => rw [hid, beq_iff_eq.mp h]
  · cases h

/-- The counters of a probe are the words that follow its header. -/
theorem decode_of_isProbe (h : isProbe frame = true) :
    Stamps.decode frame =
      if frame.length < frameLength then .error (.truncated frame.length frameLength)
      else .ok ⟨hopAt frame 0, hopAt frame 1, hopAt frame 2⟩ := by
  have hlong := (isProbe_eq_true_iff.mp h).1
  have hpayload : (frame.drop headerLength).length < stampsLength ↔
      frame.length < frameLength := by
    rw [List.length_drop, frameLength]
    have hheader : headerLength ≤ frame.length := hlong
    omega
  rw [decode_of_ok (vlanOf_of_isProbe h), if_neg (not_not_intro rfl), Stamps.decodePayload]
  by_cases hshort : frame.length < frameLength
  · rw [if_pos hshort, if_pos (hpayload.mpr hshort)]
  · rw [if_neg hshort, if_neg (mt hpayload.mp hshort), ← hop_decode_drop, ← hop_decode_drop,
      ← hop_decode_drop]
    rfl

/-- A frame decodes to one of five outcomes. -/
theorem decode_cases (frame : Bytes) :
    ((frame.length < 14 ∨ Tagged frame ∧ frame.length < 18) ∧
        Stamps.decode frame = .error (.truncated frame.length 18)) ∨
      (14 ≤ frame.length ∧ ¬Tagged frame ∧ Stamps.decode frame = .error .notVlan) ∨
      (18 ≤ frame.length ∧ Tagged frame ∧ tagId frame ≠ 0x0ABC ∧
        Stamps.decode frame = .error (.wrongVlan (UInt16.ofNat (tagId frame)))) ∨
      (isProbe frame = true ∧ frame.length < 66 ∧
        Stamps.decode frame = .error (.truncated frame.length 66)) ∨
      (isProbe frame = true ∧ 66 ≤ frame.length ∧
        Stamps.decode frame = .ok ⟨hopAt frame 0, hopAt frame 1, hopAt frame 2⟩) := by
  rcases vlanOf_cases frame with ⟨hcut, h⟩ | ⟨hlong, hunmarked, h⟩ | ⟨hlong, ht, h⟩
  · exact .inl ⟨hcut, decode_of_error h⟩
  · exact .inr (.inl ⟨hlong, hunmarked, decode_of_error h⟩)
  · by_cases hid : tagId frame = 0x0ABC
    · have hprobe := isProbe_eq_true_iff.mpr ⟨hlong, ht, hid⟩
      have hdecode := decode_of_isProbe hprobe
      by_cases hshort : frame.length < frameLength
      · rw [if_pos hshort] at hdecode
        exact .inr (.inr (.inr (.inl ⟨hprobe, hshort, hdecode⟩)))
      · rw [if_neg hshort] at hdecode
        exact .inr (.inr (.inr (.inr ⟨hprobe, Nat.le_of_not_lt hshort, hdecode⟩)))
    · have hwrong : UInt16.ofNat (tagId frame) ≠ vlanId := mt ofNat_tagId_eq.mp hid
      have hdecode := decode_of_ok h
      rw [if_pos hwrong] at hdecode
      exact .inr (.inr (.inl ⟨hlong, ht, hid, hdecode⟩))

/-! ## Slices -/

/-- The bytes from `start` up to `stop`; none unless all of them are there. -/
def slice? (bytes : Bytes) (start stop : Nat) : Option Bytes :=
  if start ≤ stop ∧ stop ≤ bytes.length then some ((bytes.drop start).take (stop - start))
  else none

/-- The header by slices: the type, the tag behind it, and the id in front of the tag. -/
def vlanOf? (frame : Bytes) : Option (Except Error UInt16) :=
  if frame.length < ethernetLength then some (.error (.truncated frame.length headerLength))
  else do
    let type ← slice? frame 12 ethernetLength
    let tag ← slice? frame ethernetLength frame.length
    if type ≠ [0x81, 0x00] then some (.error .notVlan)
    else if tag.length < 4 then some (.error (.truncated frame.length headerLength))
    else do
      let id ← slice? tag 0 2
      some (.ok (UInt16.ofNat (Wire.ofBigEndian id % 0x1000)))

/-- Cut a hop in the middle and read both counters. -/
def Hop.read? (hop : Bytes) : Option Hop := do
  let sync ← slice? hop 0 8
  let tick ← slice? hop 8 16
  some ⟨UInt64.ofNat (Wire.ofLittleEndian sync), UInt64.ofNat (Wire.ofLittleEndian tick)⟩

/-- Cut three hops off the payload, unless it is too short. -/
def Stamps.readPayload? (payload : Bytes) : Option (Option Stamps) :=
  if payload.length < stampsLength then some none
  else do
    let hop₀ ← (slice? payload 0 16).bind Hop.read?
    let hop₁ ← (slice? payload 16 32).bind Hop.read?
    let hop₂ ← (slice? payload 32 48).bind Hop.read?
    some (some ⟨hop₀, hop₁, hop₂⟩)

/-- Decode a frame by slices. There is no answer if a slice does not lie inside of what it is
cut from. -/
def Stamps.read? (frame : Bytes) : Option (Except Error Stamps) := do
  match ← vlanOf? frame with
  | .error e => some (.error e)
  | .ok id =>
    if id ≠ vlanId then some (.error (.wrongVlan id))
    else do
      let payload ← slice? frame headerLength frame.length
      match ← Stamps.readPayload? payload with
      | some stamps => some (.ok stamps)
      | none => some (.error (.truncated frame.length frameLength))

variable {bytes : Bytes}

theorem slice?_of_le {start stop : Nat} (h₁ : start ≤ stop) (h₂ : stop ≤ bytes.length) :
    slice? bytes start stop = some ((bytes.drop start).take (stop - start)) :=
  if_pos ⟨h₁, h₂⟩

theorem slice?_to_end {start : Nat} (h : start ≤ bytes.length) :
    slice? bytes start bytes.length = some (bytes.drop start) := by
  rw [slice?_of_le h (Nat.le_refl _), ← List.length_drop, List.take_length]

/-- The slices of a hop that lies inside of the bytes do so as well. -/
theorem read?_slice {start : Nat} (h : start + 16 ≤ bytes.length) :
    (slice? bytes start (start + 16)).bind Hop.read? = some (Hop.decode (bytes.drop start)) := by
  have hlength : ((bytes.drop start).take 16).length = 16 := by
    rw [List.length_take, List.length_drop]
    omega
  have hfront : (((bytes.drop start).take 16).drop 0).take (8 - 0) = (bytes.drop start).take 8 := by
    rw [List.drop_zero, List.take_take]
    rfl
  have hback : (((bytes.drop start).take 16).drop 8).take (16 - 8) =
      ((bytes.drop start).drop 8).take 8 := by
    rw [List.drop_take, List.take_take]
    rfl
  rw [slice?_of_le (by omega) h, Nat.add_sub_cancel_left, Option.bind_some, Hop.read?,
    slice?_of_le (by omega) (by omega), slice?_of_le (by omega) (by omega), hfront, hback]
  rfl

theorem readPayload?_eq (payload : Bytes) :
    Stamps.readPayload? payload = some (Stamps.decodePayload payload) := by
  rw [Stamps.readPayload?, Stamps.decodePayload]
  by_cases hshort : payload.length < stampsLength
  · rw [if_pos hshort, if_pos hshort]
  · have hlong : 48 ≤ payload.length := Nat.le_of_not_lt hshort
    rw [if_neg hshort, if_neg hshort, read?_slice (by omega), read?_slice (by omega),
      read?_slice (by omega)]
    rfl

theorem vlanOf?_eq (frame : Bytes) : vlanOf? frame = some (vlanOf frame) := by
  rw [vlanOf?]
  by_cases hshort : frame.length < ethernetLength
  · rw [if_pos hshort, vlanOf_of_short hshort]
  have hlong := Nat.le_of_not_lt hshort
  have htype : slice? frame 12 ethernetLength = some ((frame.drop 12).take 2) :=
    slice?_of_le (by decide) hlong
  rw [if_neg hshort, htype, slice?_to_end hlong, Option.bind_eq_bind, Option.bind_some,
    Option.bind_some, List.length_drop]
  by_cases ht : (frame.drop 12).take 2 = [0x81, 0x00]
  · rw [if_neg (not_not_intro ht)]
    by_cases hcut : frame.length < headerLength
    · have htag : frame.length - ethernetLength < 4 := by
        rw [headerLength] at hcut
        rw [ethernetLength]
        omega
      rw [if_pos htag, vlanOf_of_cut ht hcut]
    · have hcomplete := Nat.le_of_not_lt hcut
      have htag : 4 ≤ frame.length - ethernetLength := by
        rw [headerLength] at hcomplete
        rw [ethernetLength]
        omega
      rw [if_neg (Nat.not_lt.mpr htag), vlanOf_of_tagged ht hcomplete, slice?_of_le (by omega)
        (by rw [List.length_drop]; omega)]
      rfl
  · rw [if_pos ht, vlanOf_of_untagged hlong ht]

/-- The slices are those of the decoder, and all of them are in range. -/
theorem read?_eq (frame : Bytes) : Stamps.read? frame = some (Stamps.decode frame) := by
  rw [Stamps.read?, vlanOf?_eq, Option.bind_eq_bind, Option.bind_some]
  cases hvlan : vlanOf frame with
  | error e => rw [decode_of_error hvlan]
  | ok id =>
      rw [decode_of_ok hvlan]
      by_cases hid : id ≠ vlanId
      · simp only [if_pos hid]
      · have hheader : headerLength ≤ frame.length := by
          rcases vlanOf_cases frame with ⟨_, h⟩ | ⟨_, _, h⟩ | ⟨hlong, _, _⟩
          · rw [h] at hvlan
            cases hvlan
          · rw [h] at hvlan
            cases hvlan
          · exact hlong
        simp only [if_neg hid, slice?_to_end hheader, readPayload?_eq, Option.bind_eq_bind,
          Option.bind_some]
        cases Stamps.decodePayload (frame.drop headerLength) <;> rfl

/-! ## Exactness -/

/-- Whether a frame is a probe and what it decodes to, by its length and by its fields. -/
structure Classified (frame : Bytes) : Prop where
  isProbe_iff : isProbe frame = true ↔ 18 ≤ frame.length ∧ Tagged frame ∧ tagId frame = 0x0ABC
  /-- The frame is too short for its header. -/
  cut_iff (length : Nat) : Stamps.decode frame = .error (.truncated length 18) ↔
    length = frame.length ∧ (frame.length < 14 ∨ Tagged frame ∧ frame.length < 18)
  notVlan_iff : Stamps.decode frame = .error .notVlan ↔ 14 ≤ frame.length ∧ ¬Tagged frame
  wrongVlan_iff (found : UInt16) : Stamps.decode frame = .error (.wrongVlan found) ↔
    18 ≤ frame.length ∧ Tagged frame ∧ tagId frame ≠ 0x0ABC ∧ found.toNat = tagId frame
  /-- The frame is a probe that is too short for its counters. -/
  short_iff (length : Nat) : Stamps.decode frame = .error (.truncated length 66) ↔
    length = frame.length ∧ isProbe frame = true ∧ frame.length < 66
  ok_iff (stamps : Stamps) : Stamps.decode frame = .ok stamps ↔
    isProbe frame = true ∧ 66 ≤ frame.length ∧
      stamps = ⟨hopAt frame 0, hopAt frame 1, hopAt frame 2⟩
  /-- The lengths that are missed are those of a header and of a complete probe. -/
  needed_eq (length needed : Nat) :
    Stamps.decode frame = .error (.truncated length needed) → needed = 18 ∨ needed = 66
  slices : Stamps.read? frame = some (Stamps.decode frame)

/-- What counts as a probe is decided by two fields, and what decodes is a probe that is long
enough. -/
theorem decode_classified (frame : Bytes) : Classified frame := by
  have hprobe : isProbe frame = true ↔ 18 ≤ frame.length ∧ Tagged frame ∧ tagId frame = 0x0ABC :=
    isProbe_eq_true_iff
  have hfound (found : UInt16) : UInt16.ofNat (tagId frame) = found ↔ tagId frame = found.toNat :=
    ofNat_tagId_eq
  refine ⟨hprobe, ?_, ?_, ?_, ?_, ?_, ?_, read?_eq frame⟩
  -- An outcome is that of one of the five cases, and the conditions of the others exclude it.
  all_goals
    rcases decode_cases frame with ⟨hcut, h⟩ | ⟨hlong, ht, h⟩ | ⟨hlong, ht, hid, h⟩ |
      ⟨hp, hshort, h⟩ | ⟨hp, hlong, h⟩ <;> grind

end EtherRelay.Probe
