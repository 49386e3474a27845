import EtherRelay.Telemetry.Reader
import Mathlib.Data.List.Nodup

/-!
# Stats records are read back

A record is a single line, and its fields stand between commas. The keys of a sample's record all
differ, so what is said under a key is found again: reading the line gives the sample back, as far
as a record says anything of it. The names of the interfaces must not hold a comma or a line feed;
an equals sign does no harm, since a field is split at its first one, which ends the key.
-/

namespace EtherRelay

/-- What holds of all characters of a text is decided by going through the text. -/
local instance decidableText (p : Char → Prop) [DecidablePred p] (text : List Char) :
    Decidable (∀ c ∈ text, p c) :=
  List.decidableBAll p text

/-- Reading each of several values gives all of them. -/
theorem mapM_eq_some_map {α β : Type} {f : α → Option β} {g : α → β} {xs : List α}
    (h : ∀ x ∈ xs, f x = some (g x)) : xs.mapM f = some (xs.map g) := by
  induction xs with
  | nil => rfl
  | cons x xs ih =>
    obtain ⟨hx, hxs⟩ := List.forall_mem_cons.mp h
    rw [List.mapM_cons, hx, ih hxs]
    rfl

/-- The decimal digits of a number, as records show it. -/
def digits (n : Nat) : List Char := Nat.toDigits 10 n

theorem toList_toString (n : Nat) : (toString n).toList = digits n := by
  rw [Nat.toString_eq_repr, Nat.toList_repr, digits]

namespace Record

variable {r : Record}

/-! ## Lines -/

/-- The text in front of the first comma. -/
def heading (r : Record) : List Char := (r.measurement ++ "(" ++ r.tag ++ ")").toList

/-- A field as it stands between commas. -/
def fieldText (field : String × String) : List Char := field.1.toList ++ '=' :: field.2.toList

/-- No mark between the parts of a record: neither a comma nor a line feed. -/
def Inner (c : Char) : Prop := c ≠ ',' ∧ c ≠ '\n'

instance (c : Char) : Decidable (Inner c) := inferInstanceAs (Decidable (_ ∧ _))

/-- No mark inside a key, the end of the key included. -/
def InKey (c : Char) : Prop := Inner c ∧ c ≠ '='

instance (c : Char) : Decidable (InKey c) := inferInstanceAs (Decidable (_ ∧ _))

/-- Nothing in a record is taken for a mark between its parts. -/
structure Separable (r : Record) : Prop where
  heading : ∀ c ∈ r.heading, Inner c
  keys : ∀ f ∈ r.fields, ∀ c ∈ f.1.toList, InKey c
  values : ∀ f ∈ r.fields, ∀ c ∈ f.2.toList, Inner c

/-- The pieces between the commas. -/
def pieces (r : Record) : List (List Char) := r.heading :: r.fields.map fieldText

/-- The line without its line feed. -/
def body (r : Record) : List Char := [','].intercalate r.pieces

theorem toList_line (r : Record) : r.line.toList = r.body ++ ['\n'] := by
  have hfields : ∀ (front : List Char) (fields : List (String × String)),
      [','].intercalate (front :: fields.map fieldText) =
        front ++ (String.join (fields.map fun f => "," ++ f.1 ++ "=" ++ f.2)).toList := by
    intro front fields
    induction fields generalizing front with
    | nil => simp [List.intercalate]
    | cons f fields ih =>
      rw [List.map_cons, List.intercalate_cons_cons, ih]
      simp [fieldText]
  rw [body, pieces, hfields, line, heading]
  simp

theorem splitField_fieldText {f : String × String} (h : ∀ c ∈ f.1.toList, InKey c) :
    splitField (fieldText f) = some (f.1.toList, f.2.toList) := by
  have hne : ∀ c ∈ f.1.toList, (c != '=') = true := fun c hc => bne_iff_ne.mpr (h c hc).2
  have htake : (fieldText f).takeWhile (· != '=') = f.1.toList := by
    rw [fieldText, List.takeWhile_append_of_pos hne]
    simp
  have hdrop : (fieldText f).dropWhile (· != '=') = '=' :: f.2.toList := by
    rw [fieldText, List.dropWhile_append_of_pos hne]
    simp
  rw [splitField, htake, hdrop]

/-- No piece of the line holds a mark. -/
theorem Separable.inner (h : r.Separable) : ∀ piece ∈ r.pieces, ∀ c ∈ piece, Inner c := by
  intro piece hpiece c hc
  rcases List.mem_cons.mp hpiece with rfl | hpiece
  · exact h.heading c hc
  · obtain ⟨f, hf, rfl⟩ := List.mem_map.mp hpiece
    rcases List.mem_append.mp hc with hc | hc
    · exact (h.keys f hf c hc).1
    · rcases List.mem_cons.mp hc with rfl | hc
      · decide
      · exact h.values f hf c hc

theorem Separable.splitOn_body (h : r.Separable) : r.body.splitOn ',' = r.pieces := by
  refine List.splitOn_intercalate ',' (fun piece hpiece hmem => ?_) (List.cons_ne_nil _ _)
  exact (h.inner piece hpiece ',' hmem).1 rfl

theorem mem_intercalate {pieces : List (List Char)} {sep : List Char} {c : Char}
    (h : c ∈ sep.intercalate pieces) : c ∈ sep ∨ ∃ piece ∈ pieces, c ∈ piece := by
  induction pieces with
  | nil => exact absurd h List.not_mem_nil
  | cons piece pieces ih =>
    cases pieces with
    | nil => exact .inr ⟨piece, List.mem_singleton_self piece, by simpa using h⟩
    | cons next pieces =>
      rw [List.intercalate_cons_cons, List.append_assoc, List.mem_append, List.mem_append] at h
      rcases h with h | h | h
      · exact .inr ⟨piece, List.mem_cons_self, h⟩
      · exact .inl h
      · rcases ih h with hsep | ⟨piece', hmem, hc⟩
        · exact .inl hsep
        · exact .inr ⟨piece', List.mem_cons_of_mem _ hmem, hc⟩

/-- A record is a single line. -/
theorem Separable.not_mem_body (h : r.Separable) : '\n' ∉ r.body := by
  intro hmem
  rcases mem_intercalate hmem with hsep | ⟨piece, hpiece, hc⟩
  · exact absurd hsep (by decide)
  · exact (h.inner piece hpiece _ hc).2 rfl

theorem Separable.split_fields (h : r.Separable) :
    (r.fields.map fieldText).mapM splitField =
      some (r.fields.map fun f => (f.1.toList, f.2.toList)) := by
  rw [List.mapM_map]
  exact mapM_eq_some_map fun f hf => splitField_fieldText (h.keys f hf)

theorem Separable.split_line (h : r.Separable) :
    split r.line = some (r.heading, r.fields.map fun f => (f.1.toList, f.2.toList)) := by
  have hbody : ['\n'].isSuffixOf? r.line.toList = some r.body :=
    List.isSuffixOf?_eq_some_iff_append_eq.mpr r.toList_line.symm
  simp only [split, hbody, h.splitOn_body, pieces, h.split_fields, Option.bind_eq_bind,
    Option.bind_some]
  rfl

/-! ## Numbers -/

theorem inKey_digits (n : Nat) : ∀ c ∈ digits n, InKey c := by
  intro c hc
  have hdigit := Nat.isDigit_of_mem_toDigits (by decide) (by decide) hc
  refine ⟨⟨?_, ?_⟩, ?_⟩
  · rintro rfl
    exact absurd hdigit (by decide)
  · rintro rfl
    exact absurd hdigit (by decide)
  · rintro rfl
    exact absurd hdigit (by decide)

theorem number?_digits {n bound : Nat} (h : n < bound) : number? bound (digits n) = some n := by
  have hvalue : Nat.ofDigitChars 10 (digits n) 0 = n := Nat.ofDigitChars_ten_toDigits
  have hdigits : (digits n).all Char.isDigit = true := by
    rw [List.all_eq_true]
    intro c hc
    exact Nat.isDigit_of_mem_toDigits (by decide) (by decide) hc
  rw [number?, hvalue]
  exact if_pos ⟨Nat.toDigits_ne_nil, hdigits, h⟩

theorem after?_append (beginning : String) (rest : List Char) :
    after? beginning (beginning.toList ++ rest) = some rest :=
  List.isPrefixOf?_eq_some_iff_append_eq.mpr rfl

theorem closed?_digits (n : UInt16) : closed? (digits n.toNat ++ [')']) = some n := by
  have hsuffix : [')'].isSuffixOf? (digits n.toNat ++ [')']) = some (digits n.toNat) :=
    List.isSuffixOf?_eq_some_iff_append_eq.mpr rfl
  rw [closed?, hsuffix, Option.bind_eq_bind, Option.bind_some, number?_digits n.toNat_lt]
  exact congrArg some UInt16.ofNat_toNat

end Record

namespace Sample

open Record

/-! ## Keys -/

variable {side : Side} {name : String}

theorem ofSide?_port (side : Side) (n : UInt16) :
    Key.ofSide? side (side.opening.toList ++ (digits n.toNat ++ [')'])) = some (.port side n) := by
  simp only [Key.ofSide?, after?_append, closed?_digits, Option.map_some]

/-- What follows the mark of an end is told apart by its own beginning. -/
theorem ofSide?_mark (side : Side) (text : List Char) :
    Key.ofSide? side (side.mark.toList ++ text) =
      match after? "hw_" text with
      | some name => some (.hardware side (String.ofList name))
      | none => some (.counter side (String.ofList text)) := by
  have hopening : after? side.opening (side.mark.toList ++ text) = none := by
    cases side <;> simp [after?, Side.opening, Side.mark, sourceSide, destinationSide,
      List.isPrefixOf?]
  cases hname : after? "hw_" text <;> simp only [Key.ofSide?, hopening, after?_append, hname]

/-- The keys of one end are not taken for keys of the other. -/
theorem ofSide?_source_of_destination (text : List Char) :
    Key.ofSide? .source (Side.destination.opening.toList ++ text) = none ∧
      Key.ofSide? .source (Side.destination.mark.toList ++ text) = none := by
  constructor <;> simp [Key.ofSide?, after?, Side.opening, Side.mark, sourceSide,
    destinationSide, List.isPrefixOf?]

theorem ofText_port (side : Side) (n : UInt16) :
    Key.ofText (side.opening.toList ++ (digits n.toNat ++ [')'])) = .port side n := by
  cases side with
  | source => rw [Key.ofText, ofSide?_port, Option.some_or, Option.getD_some]
  | destination =>
    rw [Key.ofText, (ofSide?_source_of_destination _).1, ofSide?_port, Option.none_or,
      Option.getD_some]

theorem ofText_mark {side : Side} {text : List Char} {key : Key}
    (h : Key.ofSide? side (side.mark.toList ++ text) = some key) :
    Key.ofText (side.mark.toList ++ text) = key := by
  cases side with
  | source => rw [Key.ofText, h, Option.some_or, Option.getD_some]
  | destination =>
    rw [Key.ofText, (ofSide?_source_of_destination _).2, h, Option.none_or, Option.getD_some]

theorem ofText_counter (side : Side) {name : String} (h : name ∈ PortSample.counterNames) :
    Key.ofText (side.mark.toList ++ name.toList) = .counter side name := by
  have hnames : ∀ name ∈ PortSample.counterNames, after? "hw_" name.toList = none := by decide
  apply ofText_mark
  rw [ofSide?_mark, hnames name h]
  simp only [String.ofList_toList]

theorem ofText_hardware (side : Side) (name : String) :
    Key.ofText (side.mark.toList ++ ("hw_".toList ++ name.toList)) = .hardware side name := by
  apply ofText_mark
  rw [ofSide?_mark, after?_append]
  simp only [String.ofList_toList]

/-- The names of the fields for the whole context. -/
def contextNames : List String := Counter.reported.map Counter.name ++ ["DELTA_NS"]

theorem ofText_plain {name : String} (h : name ∈ contextNames) :
    Key.ofText name.toList = .plain name := by
  have hnames : ∀ name ∈ contextNames, Key.ofText name.toList = .plain name := by decide
  exact hnames name h

/-! ## Fields -/

/-- Fields that name words. -/
def spell (words : List (String × Nat)) : Named := words.map fun e => (e.1, digits e.2)

/-- What is found under a key that stands once. -/
theorem lookup_of_mem {β : Type} {fields : List (String × β)} {value : β}
    (hnodup : (fields.map Prod.fst).Nodup) (h : (name, value) ∈ fields) :
    fields.lookup name = some value := by
  induction fields with
  | nil => exact absurd h List.not_mem_nil
  | cons field fields ih =>
    obtain ⟨hfresh, hrest⟩ := List.nodup_cons.mp hnodup
    rcases List.mem_cons.mp h with rfl | h
    · exact List.lookup_cons_self
    · have hne : name ≠ field.1 := by
        rintro rfl
        exact hfresh (List.mem_map.mpr ⟨_, h, rfl⟩)
      rw [List.lookup_cons, beq_eq_false_iff_ne.mpr hne, ih hrest h]

theorem lookup_spell {bound n : Nat} {words : List (String × Nat)}
    (hnodup : (words.map Prod.fst).Nodup) (h : (name, n) ∈ words) (hn : n < bound) :
    lookup bound (spell words) name = some n := by
  have hkeys : ((spell words).map Prod.fst) = words.map Prod.fst := by
    rw [spell, List.map_map]
    rfl
  have hmem : (name, digits n) ∈ spell words := List.mem_map.mpr ⟨_, h, rfl⟩
  rw [lookup, lookup_of_mem (hkeys ▸ hnodup) hmem, Option.bind_some, number?_digits hn]

/-- Words are found under their names. -/
theorem lookupAll_spell {α : Type} {bound : Nat} {ofNat : Nat → α} {toNat : α → Nat}
    (hlt : ∀ a, toNat a < bound) (hof : ∀ a, ofNat (toNat a) = a) {words : List (String × Nat)}
    (hnodup : (words.map Prod.fst).Nodup) {found : List (String × α)}
    (hfound : ∀ e ∈ found, (e.1, toNat e.2) ∈ words) :
    lookupAll bound ofNat (spell words) (found.map Prod.fst) = some (found.map Prod.snd) := by
  rw [lookupAll, List.mapM_map]
  refine mapM_eq_some_map fun e he => ?_
  rw [Function.comp, lookup_spell hnodup (hfound e he) (hlt e.2), Option.map_some, hof]

end Sample

/-! ## Samples -/

namespace Hardware.Snapshot

variable {snapshot : Snapshot}

/-- The names of the totals. -/
def totalNames : List String := txNames.toList ++ rxNames.toList

/-- The breakdown, if there is one, names different registers of the block. -/
structure Distinct (snapshot : Snapshot) : Prop where
  nodup : (snapshot.extended.map Prod.fst).Nodup
  subset : ∀ name ∈ snapshot.extended.map Prod.fst, name ∈ breakdownNames

theorem names_fields (snapshot : Snapshot) :
    snapshot.fields.map Prod.fst = totalNames ++ snapshot.extended.map Prod.fst := by
  rw [fields, List.map_append]
  rfl

/-- Every snapshot that is taken of a block has such a breakdown. -/
theorem distinct_ofRegisters (r : Registers) (index : UInt8) (extended : Bool) :
    (ofRegisters r (Layout.ofIndex index) extended).Distinct := by
  cases extended with
  | false => exact ⟨List.nodup_nil, fun _ hname => absurd hname List.not_mem_nil⟩
  | true =>
    have hnames : (ofRegisters r (Layout.ofIndex index) true).extended.map Prod.fst =
        breakdownNames := by
      simp only [ofRegisters, if_true, Layout.ofIndex, List.map_map]
      exact List.zipIdx_map_fst 0 breakdownNames
    constructor
    · rw [hnames]
      decide
    · rw [hnames]
      exact fun _ hname => hname

theorem Distinct.nodup_fields (h : snapshot.Distinct) :
    (snapshot.fields.map Prod.fst).Nodup := by
  have hapart : ∀ name ∈ breakdownNames, name ∉ totalNames := by decide
  rw [names_fields, List.nodup_append]
  refine ⟨by decide, h.nodup, ?_⟩
  rintro name htotal _ hextended rfl
  exact hapart name (h.subset name hextended) htotal

/-- The names of hardware counters hold no mark. -/
theorem Distinct.inKey (h : snapshot.Distinct) :
    ∀ name ∈ snapshot.fields.map Prod.fst, ∀ c ∈ name.toList, Record.InKey c := by
  have htotals : ∀ name ∈ totalNames, ∀ c ∈ name.toList, Record.InKey c := by decide
  have hbreakdown : ∀ name ∈ breakdownNames, ∀ c ∈ name.toList, Record.InKey c := by
    decide +kernel
  intro name hname
  rw [names_fields, List.mem_append] at hname
  rcases hname with hname | hname
  · exact htotals name hname
  · exact hbreakdown name (h.subset name hname)

end Hardware.Snapshot

namespace PortSample

/-- The interface counters with their names. -/
def counterWords (p : PortSample) : List (String × UInt64) := counterNames.zip p.counters.values

/-- The hardware counters with their names. -/
def hardwareWords (p : PortSample) : List (String × UInt32) :=
  match p.hardware with
  | none => []
  | some snapshot => snapshot.fields

/-- What the record of an end can be read back from. -/
structure Readable (p : PortSample) : Prop where
  name : ∀ c ∈ p.interface.name.toList, Record.Inner c
  hardware : ∀ snapshot, p.hardware = some snapshot → snapshot.Distinct

theorem names_counterWords (p : PortSample) : p.counterWords.map Prod.fst = counterNames := rfl

/-- The names of the hardware counters differ. -/
theorem Readable.nodup_hardwareWords {p : PortSample} (h : p.Readable) :
    (p.hardwareWords.map Prod.fst).Nodup := by
  rw [hardwareWords]
  split
  · exact List.nodup_nil
  · next snapshot hsnapshot => exact (h.hardware snapshot hsnapshot).nodup_fields

/-- The names of the hardware counters hold no mark. -/
theorem Readable.inKey_hardwareWords {p : PortSample} (h : p.Readable) :
    ∀ name ∈ p.hardwareWords.map Prod.fst, ∀ c ∈ name.toList, Record.InKey c := by
  rw [hardwareWords]
  split
  · exact fun _ hname => absurd hname List.not_mem_nil
  · next snapshot hsnapshot => exact (h.hardware snapshot hsnapshot).inKey

end PortSample

namespace Sample

open Record

/-- What the record of a sample can be read back from. -/
structure Readable (s : Sample) : Prop where
  source : s.source.Readable
  destination : s.destination.Readable

/-- The counters of the relay and the time, with their names. -/
def contextWords (s : Sample) : List (String × UInt64) :=
  s.relay.reported ++ [("DELTA_NS", s.deltaNs)]

theorem names_contextWords (s : Sample) : s.contextWords.map Prod.fst = contextNames := rfl

/-- Words as numbers. -/
def wide (words : List (String × UInt64)) : List (String × Nat) :=
  words.map fun e => (e.1, e.2.toNat)

/-- Half words as numbers. -/
def narrow (words : List (String × UInt32)) : List (String × Nat) :=
  words.map fun e => (e.1, e.2.toNat)

theorem names_wide (words : List (String × UInt64)) :
    (wide words).map Prod.fst = words.map Prod.fst := by
  rw [wide, List.map_map]
  rfl

theorem names_narrow (words : List (String × UInt32)) :
    (narrow words).map Prod.fst = words.map Prod.fst := by
  rw [narrow, List.map_map]
  rfl

/-- The fields for named numbers. -/
def fieldsOf (text : String → String) (words : List (String × Nat)) : List (String × String) :=
  words.map fun e => (text e.1, toString e.2)

/-- The field for the port of an end. -/
def portField (side : Side) (p : PortSample) : String × String :=
  (side.opening ++ toString p.interface.port.toNat ++ ")", p.interface.name)

theorem fields_record (s : Sample) (context : UInt16) :
    (s.record context).fields =
      [portField .source s.source, portField .destination s.destination]
      ++ fieldsOf (Side.source.mark ++ ·) (wide s.source.counterWords)
      ++ fieldsOf (Side.destination.mark ++ ·) (wide s.destination.counterWords)
      ++ fieldsOf (Side.source.mark ++ "hw_" ++ ·) (narrow s.source.hardwareWords)
      ++ fieldsOf (Side.destination.mark ++ "hw_" ++ ·) (narrow s.destination.hardwareWords)
      ++ fieldsOf id (wide s.contextWords) := by
  have hcounters : ∀ (side : Side) (p : PortSample), p.counterFields side.mark =
      fieldsOf (side.mark ++ ·) (wide p.counterWords) := by
    intro side p
    rw [fieldsOf, wide, List.map_map]
    rfl
  have hhardware : ∀ (side : Side) (p : PortSample), p.hardwareFields side.mark =
      fieldsOf (side.mark ++ "hw_" ++ ·) (narrow p.hardwareWords) := by
    intro side p
    rw [fieldsOf, narrow, List.map_map, PortSample.hardwareFields, PortSample.hardwareWords]
    cases p.hardware <;> rfl
  have hcontext : s.relay.reported.map (fun e => (e.1, toString e.2.toNat)) ++
      [("DELTA_NS", toString s.deltaNs.toNat)] = fieldsOf id (wide s.contextWords) := by
    rw [fieldsOf, wide, contextWords, List.map_map, List.map_append]
    rfl
  rw [← hcontext, ← hcounters, ← hcounters, ← hhardware, ← hhardware, ← List.append_assoc]
  rfl

/-! ## No marks -/

theorem heading_record (s : Sample) (context : UInt16) :
    (s.record context).heading =
      (statsMeasurement ++ "(ctx-").toList ++ (digits context.toNat ++ [')']) := by
  have htag : (contextTag context).toList = "ctx-".toList ++ digits context.toNat := by
    rw [← toList_toString, ← String.toList_append]
    rfl
  simp only [heading, record, String.toList_append, htag, List.append_assoc]
  rfl

theorem inKey_opening (side : Side) : ∀ c ∈ side.opening.toList, InKey c := by
  cases side <;> decide

theorem inKey_mark (side : Side) : ∀ c ∈ side.mark.toList, InKey c := by
  cases side <;> decide

/-- A field whose parts hold no mark. -/
def Sound (f : String × String) : Prop :=
  (∀ c ∈ f.1.toList, InKey c) ∧ ∀ c ∈ f.2.toList, Inner c

theorem sound_portField (side : Side) {p : PortSample} (h : p.Readable) :
    Sound (portField side p) := by
  refine ⟨?_, h.name⟩
  rw [portField, String.toList_append, String.toList_append, toList_toString]
  simp only [List.forall_mem_append]
  exact ⟨⟨inKey_opening side, inKey_digits _⟩, by decide⟩

theorem sound_fieldsOf {text : String → String} {words : List (String × Nat)}
    (h : ∀ name ∈ words.map Prod.fst, ∀ c ∈ (text name).toList, InKey c) :
    ∀ f ∈ fieldsOf text words, Sound f := by
  intro f hf
  obtain ⟨e, he, rfl⟩ := List.mem_map.mp hf
  refine ⟨h e.1 (List.mem_map_of_mem he), ?_⟩
  rw [toList_toString]
  exact fun c hc => (inKey_digits e.2 c hc).1

/-- A mark that is put in front of sound names leaves them sound. -/
theorem inKey_append {front : String} (hfront : ∀ c ∈ front.toList, InKey c)
    {names : List String} (h : ∀ name ∈ names, ∀ c ∈ name.toList, InKey c) :
    ∀ name ∈ names, ∀ c ∈ (front ++ name).toList, InKey c := by
  intro name hname
  rw [String.toList_append, List.forall_mem_append]
  exact ⟨hfront, h name hname⟩

theorem sound_counters (side : Side) (p : PortSample) :
    ∀ f ∈ fieldsOf (side.mark ++ ·) (wide p.counterWords), Sound f := by
  apply sound_fieldsOf
  rw [names_wide, p.names_counterWords]
  exact inKey_append (inKey_mark side) (by decide)

theorem sound_hardware (side : Side) {p : PortSample} (h : p.Readable) :
    ∀ f ∈ fieldsOf (side.mark ++ "hw_" ++ ·) (narrow p.hardwareWords), Sound f := by
  apply sound_fieldsOf
  have hfront : ∀ c ∈ (side.mark ++ "hw_").toList, InKey c := by
    rw [String.toList_append, List.forall_mem_append]
    exact ⟨inKey_mark side, by decide⟩
  rw [names_narrow]
  exact inKey_append hfront h.inKey_hardwareWords

theorem sound_context (s : Sample) : ∀ f ∈ fieldsOf id (wide s.contextWords), Sound f := by
  apply sound_fieldsOf
  rw [names_wide, s.names_contextWords]
  exact (by decide : ∀ name ∈ contextNames, ∀ c ∈ name.toList, InKey c)

theorem separable_record {s : Sample} (h : s.Readable) (context : UInt16) :
    (s.record context).Separable := by
  have hsound : ∀ f ∈ (s.record context).fields, Sound f := by
    rw [fields_record]
    simp only [List.forall_mem_append, List.forall_mem_cons]
    exact ⟨⟨⟨⟨⟨⟨sound_portField .source h.source, sound_portField .destination h.destination,
      fun _ hmem => absurd hmem List.not_mem_nil⟩, sound_counters .source s.source⟩,
      sound_counters .destination s.destination⟩, sound_hardware .source h.source⟩,
      sound_hardware .destination h.destination⟩, sound_context s⟩
  refine ⟨?_, fun f hf => (hsound f hf).1, fun f hf => (hsound f hf).2⟩
  rw [heading_record]
  simp only [List.forall_mem_append]
  exact ⟨by decide, fun c hc => (inKey_digits _ c hc).1, by decide⟩

/-! ## Keys of a record -/

/-- Named words under keys of one kind. -/
def keyed (key : String → Key) (words : List (String × Nat)) : List (Key × List Char) :=
  words.map fun e => (key e.1, digits e.2)

/-- What the fields of a record say. -/
def keyedFields (s : Sample) : List (Key × List Char) :=
  [(.port .source s.source.interface.port, s.source.interface.name.toList),
    (.port .destination s.destination.interface.port, s.destination.interface.name.toList)]
  ++ keyed (.counter .source) (wide s.source.counterWords)
  ++ keyed (.counter .destination) (wide s.destination.counterWords)
  ++ keyed (.hardware .source) (narrow s.source.hardwareWords)
  ++ keyed (.hardware .destination) (narrow s.destination.hardwareWords)
  ++ keyed .plain (wide s.contextWords)

/-- A field with its key read. -/
def keyField (f : String × String) : Key × List Char := (Key.ofText f.1.toList, f.2.toList)

theorem keyField_portField (side : Side) (p : PortSample) :
    keyField (portField side p) = (.port side p.interface.port, p.interface.name.toList) := by
  rw [keyField, portField, String.toList_append, String.toList_append, toList_toString,
    List.append_assoc]
  exact congrArg (·, p.interface.name.toList) (ofText_port side p.interface.port)

theorem keyField_fieldsOf {text : String → String} {key : String → Key}
    {words : List (String × Nat)}
    (h : ∀ name ∈ words.map Prod.fst, Key.ofText (text name).toList = key name) :
    (fieldsOf text words).map keyField = keyed key words := by
  rw [fieldsOf, List.map_map, keyed]
  refine List.map_congr_left fun e he => ?_
  rw [Function.comp, keyField, h e.1 (List.mem_map_of_mem he), toList_toString]

theorem keyField_record (s : Sample) (context : UInt16) :
    (s.record context).fields.map keyField = s.keyedFields := by
  have hcounters : ∀ (side : Side) (p : PortSample),
      (fieldsOf (side.mark ++ ·) (wide p.counterWords)).map keyField =
        keyed (.counter side) (wide p.counterWords) := by
    intro side p
    apply keyField_fieldsOf
    rw [names_wide, p.names_counterWords]
    intro name hname
    rw [String.toList_append]
    exact ofText_counter side hname
  have hhardware : ∀ (side : Side) (p : PortSample),
      (fieldsOf (side.mark ++ "hw_" ++ ·) (narrow p.hardwareWords)).map keyField =
        keyed (.hardware side) (narrow p.hardwareWords) := by
    intro side p
    apply keyField_fieldsOf
    intro name _
    rw [String.toList_append, String.toList_append, List.append_assoc]
    exact ofText_hardware side name
  have hcontext : (fieldsOf id (wide s.contextWords)).map keyField =
      keyed .plain (wide s.contextWords) := by
    apply keyField_fieldsOf
    rw [names_wide, s.names_contextWords]
    exact fun name hname => ofText_plain hname
  rw [fields_record]
  simp only [List.map_append, List.map_cons, List.map_nil, keyField_portField, hcounters,
    hhardware, hcontext]
  rfl

/-- The place of a key in a record: keys of one kind stand together. -/
def Key.rank : Key → Nat
  | .port _ _ => 0
  | .counter .source _ => 1
  | .counter .destination _ => 2
  | .hardware .source _ => 3
  | .hardware .destination _ => 4
  | .plain _ => 5

/-- The keys of these fields differ, and they stand in front of the given place. -/
structure Ranked (fields : List (Key × List Char)) (rank : Nat) : Prop where
  nodup : (fields.map Prod.fst).Nodup
  lt : ∀ k ∈ fields.map Prod.fst, k.rank < rank

theorem Ranked.append {fields : List (Key × List Char)} {rank : Nat} (h : Ranked fields rank)
    {key : String → Key} (hkey : Function.Injective key) (hrank : ∀ name, (key name).rank = rank)
    {words : List (String × Nat)} (hwords : (words.map Prod.fst).Nodup) :
    Ranked (fields ++ keyed key words) (rank + 1) := by
  have hnames : (keyed key words).map Prod.fst = (words.map Prod.fst).map key := by
    rw [keyed, List.map_map, List.map_map]
    rfl
  have hplace : ∀ k ∈ (words.map Prod.fst).map key, k.rank = rank := by
    intro k hk
    obtain ⟨name, -, rfl⟩ := List.mem_map.mp hk
    exact hrank name
  constructor
  · rw [List.map_append, hnames, List.nodup_append]
    refine ⟨h.nodup, hwords.map hkey, ?_⟩
    rintro k hk _ hk' rfl
    exact absurd (hplace k hk') (Nat.ne_of_lt (h.lt k hk))
  · rw [List.map_append, hnames, List.forall_mem_append]
    exact ⟨fun k hk => Nat.lt_succ_of_lt (h.lt k hk),
      fun k hk => Nat.lt_succ_of_le (Nat.le_of_eq (hplace k hk))⟩

/-- The keys of a sample's record all differ. -/
theorem nodup_keyedFields {s : Sample} (h : s.Readable) : (s.keyedFields.map Prod.fst).Nodup := by
  have hcounters : ∀ p : PortSample, ((wide p.counterWords).map Prod.fst).Nodup := by
    intro p
    rw [names_wide, p.names_counterWords]
    decide
  have hhardware : ∀ {p : PortSample}, p.Readable →
      ((narrow p.hardwareWords).map Prod.fst).Nodup := by
    intro p hp
    rw [names_narrow]
    exact hp.nodup_hardwareWords
  have hcontext : ((wide s.contextWords).map Prod.fst).Nodup := by
    rw [names_wide, s.names_contextWords]
    decide
  have hports : Ranked [(.port .source s.source.interface.port, s.source.interface.name.toList),
      (.port .destination s.destination.interface.port, s.destination.interface.name.toList)] 1 :=
    ⟨by simp, by simp [Key.rank]⟩
  have hcounter : ∀ side, Function.Injective (Key.counter side) :=
    fun _ _ _ heq => (Key.counter.inj heq).2
  have hhardware' : ∀ side, Function.Injective (Key.hardware side) :=
    fun _ _ _ heq => (Key.hardware.inj heq).2
  have hplain : Function.Injective Key.plain := fun _ _ heq => Key.plain.inj heq
  have hinterfaces := (hports.append (hcounter .source) (fun _ => rfl)
    (hcounters s.source)).append (hcounter .destination) (fun _ => rfl) (hcounters s.destination)
  have hblocks := (hinterfaces.append (hhardware' .source) (fun _ => rfl)
    (hhardware h.source)).append (hhardware' .destination) (fun _ => rfl) (hhardware h.destination)
  exact (hblocks.append hplain (fun _ => rfl) hcontext).nodup

/-! ## Values of a record -/

/-- What a sample says of an end. -/
def port (s : Sample) : Side → PortSample
  | .source => s.source
  | .destination => s.destination

theorem named_counter (s : Sample) (side : Side) :
    named (Key.counter? side) s.keyedFields = spell (wide (s.port side).counterWords) := by
  cases side <;> simp [named, keyedFields, keyed, spell, Key.counter?, port, List.filterMap_map]

theorem named_hardware (s : Sample) (side : Side) :
    named (Key.hardware? side) s.keyedFields = spell (narrow (s.port side).hardwareWords) := by
  cases side <;> simp [named, keyedFields, keyed, spell, Key.hardware?, port, List.filterMap_map]

theorem named_plain (s : Sample) :
    named Key.plain? s.keyedFields = spell (wide s.contextWords) := by
  simp [named, keyedFields, keyed, spell, Key.plain?, List.filterMap_map]

theorem readInterface_keyedFields (s : Sample) (side : Side) :
    readInterface side s.keyedFields = some (s.port side).interface := by
  cases side <;> simp [readInterface, keyedFields, port]

/-- Words of 64 bits are found under their names. -/
theorem lookupWords_wide {words found : List (String × UInt64)}
    (hnodup : (words.map Prod.fst).Nodup) (hfound : found ⊆ words) :
    lookupWords (spell (wide words)) (found.map Prod.fst) = some (found.map Prod.snd) := by
  refine lookupAll_spell UInt64.toNat_lt (fun _ => UInt64.ofNat_toNat) ?_ fun e he => ?_
  · rwa [names_wide]
  · exact List.mem_map.mpr ⟨e, hfound he, rfl⟩

/-- Words of 32 bits are found under their names. -/
theorem lookupHalves_narrow {words found : List (String × UInt32)}
    (hnodup : (words.map Prod.fst).Nodup) (hfound : found ⊆ words) :
    lookupHalves (spell (narrow words)) (found.map Prod.fst) = some (found.map Prod.snd) := by
  refine lookupAll_spell UInt32.toNat_lt (fun _ => UInt32.ofNat_toNat) ?_ fun e he => ?_
  · rwa [names_narrow]
  · exact List.mem_map.mpr ⟨e, hfound he, rfl⟩

/-- The names of the breakdown are told apart from those of the totals. -/
theorem filter_isExtended {snapshot : Hardware.Snapshot} (h : snapshot.Distinct) :
    (snapshot.fields.map Prod.fst).filter isExtended = snapshot.extended.map Prod.fst := by
  have htotals : Hardware.Snapshot.totalNames.filter isExtended = [] := by decide
  have hbreakdown : ∀ name ∈ Hardware.breakdownNames, isExtended name = true := by decide
  rw [Hardware.Snapshot.names_fields, List.filter_append, htotals, List.nil_append]
  exact List.filter_eq_self.mpr fun name hname => hbreakdown name (h.subset name hname)

theorem readHardware_fields {snapshot : Hardware.Snapshot} (h : snapshot.Distinct) :
    readHardware (spell (narrow snapshot.fields)) = some (some snapshot) := by
  have hnames : (spell (narrow snapshot.fields)).map Prod.fst = snapshot.fields.map Prod.fst := by
    rw [← names_narrow, spell, List.map_map]
    rfl
  have htx : lookupHalves (spell (narrow snapshot.fields)) Hardware.Snapshot.txNames.toList =
      some snapshot.tx.toList :=
    lookupHalves_narrow h.nodup_fields fun _ he =>
      List.mem_append_left _ (List.mem_append_left _ he)
  have hrx : lookupHalves (spell (narrow snapshot.fields)) Hardware.Snapshot.rxNames.toList =
      some snapshot.rx.toList :=
    lookupHalves_narrow h.nodup_fields fun _ he =>
      List.mem_append_left _ (List.mem_append_right _ he)
  have hextended : lookupHalves (spell (narrow snapshot.fields))
      (snapshot.extended.map Prod.fst) = some (snapshot.extended.map Prod.snd) :=
    lookupHalves_narrow h.nodup_fields fun _ he => List.mem_append_right _ he
  have hzip : (snapshot.extended.map Prod.fst).zip (snapshot.extended.map Prod.snd) =
      snapshot.extended := by
    rw [List.zip_map', List.map_id']
  have hfound : (spell (narrow snapshot.fields)).isEmpty = false := rfl
  simp only [readHardware, hfound, Bool.false_eq_true, if_false, htx, hrx, hnames,
    filter_isExtended h, hextended, hzip, Option.bind_eq_bind, Option.bind_some,
    Hardware.Totals.ofList?_toList]
  rfl

theorem readHardware_hardwareWords {p : PortSample} (h : p.Readable) :
    readHardware (spell (narrow p.hardwareWords)) = some p.hardware := by
  rw [PortSample.hardwareWords]
  split
  · next hnone =>
    rw [hnone]
    rfl
  · next snapshot hsnapshot =>
    rw [hsnapshot]
    exact readHardware_fields (h.hardware snapshot hsnapshot)

theorem readPort_keyedFields {s : Sample} (h : s.Readable) (side : Side) :
    readPort side s.keyedFields = some (s.port side) := by
  have hport : (s.port side).Readable := by
    cases side with
    | source => exact h.source
    | destination => exact h.destination
  have hcounters : lookupWords (spell (wide (s.port side).counterWords)) PortSample.counterNames =
      some (s.port side).counters.values :=
    lookupWords_wide (by rw [PortSample.names_counterWords]; decide) (List.Subset.refl _)
  simp only [readPort, readInterface_keyedFields, named_counter, hcounters, named_hardware,
    readHardware_hardwareWords hport, InterfaceCounters.ofValues?_values, Option.bind_eq_bind,
    Option.bind_some]
  rfl

/-- What can be read back from a sample's record. -/
def reading (s : Sample) (context : UInt16) : Reading where
  context
  source := s.source
  destination := s.destination
  relay := s.relay.reported
  deltaNs := s.deltaNs

/-- Reading a record undoes writing it. -/
theorem read_record {s : Sample} (h : s.Readable) (context : UInt16) :
    read (s.record context).line = some (s.reading context) := by
  have hnodup : (s.contextWords.map Prod.fst).Nodup := by
    rw [s.names_contextWords]
    decide
  have hrelay : lookupWords (spell (wide s.contextWords)) (Counter.reported.map Counter.name) =
      some (s.relay.reported.map Prod.snd) :=
    lookupWords_wide hnodup fun _ he => List.mem_append_left _ he
  have hdelta : lookup UInt64.size (spell (wide s.contextWords)) "DELTA_NS" =
      some s.deltaNs.toNat := by
    refine lookup_spell (by rwa [names_wide]) ?_ s.deltaNs.toNat_lt
    exact List.mem_map.mpr ⟨("DELTA_NS", s.deltaNs), List.mem_append_right _ List.mem_cons_self, rfl⟩
  have hfields : ((s.record context).fields.map fun f => (f.1.toList, f.2.toList)).map
      (fun field => (Key.ofText field.1, field.2)) = s.keyedFields := by
    rw [← keyField_record s context, List.map_map]
    rfl
  have hzip : (Counter.reported.map Counter.name).zip (s.relay.reported.map Prod.snd) =
      s.relay.reported := rfl
  simp only [read, (separable_record h context).split_line, heading_record, after?_append,
    closed?_digits, hfields, readPort_keyedFields h, named_plain, hrelay, hdelta, hzip,
    Option.bind_eq_bind, Option.bind_some, UInt64.ofNat_toNat]
  rfl

/-- No two fields of a record have the same key. -/
theorem nodup_keys {s : Sample} (h : s.Readable) (context : UInt16) :
    ((s.record context).fields.map fun f => f.1.toList).Nodup := by
  have htyped : ((s.record context).fields.map fun f => f.1.toList).map Key.ofText =
      s.keyedFields.map Prod.fst := by
    rw [← keyField_record s context, List.map_map, List.map_map]
    rfl
  have hnodup := nodup_keyedFields h
  rw [← htyped] at hnodup
  exact hnodup.of_map

/-- A stats record can be read back. It is a single line. Between its commas it has a heading that
names the context, and fields whose keys all differ. Read by these keys, it gives back everything
that the sample says of both ends, the reported counters of the relay and the time, so samples
with equal records agree on all of these. -/
theorem record_readsBack {s : Sample} (h : s.Readable) (context : UInt16) :
    (∃ body pieces fields, (s.record context).line.toList = body ++ ['\n'] ∧ '\n' ∉ body ∧
      body.splitOn ',' =
        ("Forwarder_stats(ctx-" ++ toString context.toNat ++ ")").toList :: pieces ∧
      pieces.mapM Record.splitField = some fields ∧ (fields.map Prod.fst).Nodup) ∧
    read (s.record context).line = some (s.reading context) ∧
    ∀ {s' : Sample} {context' : UInt16}, s'.Readable →
      (s'.record context').line = (s.record context).line →
      context' = context ∧ s'.source = s.source ∧ s'.destination = s.destination ∧
        s'.relay.reported = s.relay.reported ∧ s'.deltaNs = s.deltaNs := by
  have hseparable := separable_record h context
  refine ⟨⟨_, _, _, (s.record context).toList_line, hseparable.not_mem_body, ?_,
    hseparable.split_fields, ?_⟩, read_record h context, ?_⟩
  · rw [hseparable.splitOn_body, Record.pieces, heading_record]
    simp only [String.toList_append, toList_toString, List.append_assoc]
    rfl
  · rw [List.map_map]
    exact nodup_keys h context
  · intro s' context' h' hline
    have hread := read_record h' context'
    rw [hline, read_record h context] at hread
    obtain ⟨hcontext, hsource, hdestination, hrelay, hdelta⟩ :=
      Reading.mk.inj (Option.some.inj hread)
    exact ⟨hcontext.symm, hsource.symm, hdestination.symm, hrelay.symm, hdelta.symm⟩

/-- A sample of an end with a breakdown and an odd name, and of one without hardware counters. -/
def sampled : Sample where
  source :=
    { interface := ⟨3, "0000:3b=00.0"⟩
      counters := { rxPackets := 18446744073709551615, txErrors := 7 }
      hardware := some { tx := ⟨1, 2, 3, 4⟩, rx := ⟨5, 6, 7, 8⟩, extended := [("rx_vlan", 9)] } }
  destination := { interface := ⟨4, ""⟩, counters := {}, hardware := none }
  relay := { forwarded := 20, rxBursts := 3, rxPackets := 40 }
  deltaNs := 1000000

theorem record_readsBack_sampled :
    sampled.Readable ∧ read (sampled.record 12).line = some
      { context := 12
        source := sampled.source
        destination := sampled.destination
        relay := [("forwarded", 20), ("relay_overflow_drops", 0), ("probe_overflow_drops", 0),
          ("tx_partial_drops", 0), ("probes_decoded", 0), ("malformed_probes", 0),
          ("reordered_hops", 0), ("rx_bursts", 3), ("tx_bursts", 0)]
        deltaNs := 1000000 } := by
  have hreadable : sampled.Readable := by
    refine ⟨⟨by decide, ?_⟩, ⟨by decide, ?_⟩⟩
    · rintro _ ⟨⟩
      exact ⟨by decide, by decide⟩
    · rintro _ ⟨⟩
  exact ⟨hreadable, (record_readsBack hreadable 12).2.1⟩

end Sample

end EtherRelay
