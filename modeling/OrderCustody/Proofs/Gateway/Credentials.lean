import Mathlib.Data.List.Basic
import OrderCustody.Gateway.Admin
import OrderCustody.Proofs.Bytes.Text
import OrderCustody.Proofs.Text.Trim

namespace OrderCustody.Gateway

/-!
# Which credentials are accepted

The administrator's key is looked for in two header fields.  Each of them is described by
the bytes of its value: which of them hold the key, and which of them make the gateway not
look at the other field.
-/

/-! ## Values of header fields -/

/-- Whether a value is text, so that it is looked at. -/
def Readable (value : Bytes) : Prop :=
  ∀ byte ∈ value, isFieldByte byte = true

instance (value : Bytes) : Decidable (Readable value) :=
  inferInstanceAs (Decidable (∀ byte ∈ value, isFieldByte byte = true))

/-- What stands in front of a key in the authorization field. -/
def bearer : Bytes :=
  Bytes.ofText "Bearer "

/-- A value that is a key with spaces and tabs around it. -/
def Plain (key : String) : Bytes → Prop :=
  Text.Around isPadding (Bytes.ofText key)

/-- A value that is not only spaces and tabs. -/
def Filled (value : Bytes) : Prop :=
  ∃ byte ∈ value, isPadding byte = false

/-- A value with something of a shape behind `Bearer `, and spaces and tabs in front. -/
inductive BehindBearer (shape : Bytes → Prop) : Bytes → Prop where
  | intro
      {front token : Bytes}
      (padding : ∀ byte ∈ front, isPadding byte = true)
      (shaped : shape token) :
      BehindBearer shape (front ++ bearer ++ token)

/-- A value that presents a key behind `Bearer `, whichever it is. -/
structure PresentsBearer (value : Bytes) : Prop where
  readable : Readable value
  behind : BehindBearer Filled value

theorem isFieldByte_of_isPadding
    {byte : UInt8}
    (padding : isPadding byte = true) :
    isFieldByte byte = true := by
  simp only [isPadding, Bool.or_eq_true, beq_iff_eq] at padding
  rcases padding with rfl | rfl <;> rfl

theorem readable_append {first second : Bytes} :
    Readable (first ++ second) ↔ Readable first ∧ Readable second :=
  List.forall_mem_append

theorem readable_of_padding
    {bytes : Bytes}
    (padding : ∀ byte ∈ bytes, isPadding byte = true) :
    Readable bytes :=
  fun byte member => isFieldByte_of_isPadding (padding byte member)

theorem readable_bearer : Readable bearer := by
  decide +kernel

/-- Spaces and tabs around bytes do not matter for their being text. -/
theorem readable_around
    {core value : Bytes}
    (around : Text.Around isPadding core value) :
    Readable value ↔ Readable core := by
  obtain ⟨frontPadding, behindPadding⟩ := around
  rw [readable_append, readable_append]
  exact ⟨fun ⟨⟨_, readable⟩, _⟩ => readable,
    fun readable =>
      ⟨⟨readable_of_padding frontPadding, readable⟩, readable_of_padding behindPadding⟩⟩

theorem withoutPadding_eq_iff (value core : Bytes) :
    withoutPadding value = core ↔
      Text.Around isPadding core value ∧ Text.Trimmed isPadding core :=
  Text.trimmed_eq_iff isPadding value core

theorem around_withoutPadding (value : Bytes) :
    Text.Around isPadding (withoutPadding value) value :=
  ((withoutPadding_eq_iff value _).mp rfl).1

theorem readable_withoutPadding_iff (value : Bytes) :
    Readable (withoutPadding value) ↔ Readable value :=
  (readable_around (around_withoutPadding value)).symm

theorem withoutPadding_withoutPadding (value : Bytes) :
    withoutPadding (withoutPadding value) = withoutPadding value := by
  obtain ⟨-, trimmed⟩ := (withoutPadding_eq_iff value _).mp rfl
  exact (withoutPadding_eq_iff _ _).mpr ⟨.refl _, trimmed⟩

/-! ## Their characters -/

/-- The character of a byte. -/
def character (byte : UInt8) : Char :=
  Char.ofNat byte.toNat

theorem text?_eq_some_iff (field : HeaderField) (characters : List Char) :
    field.text? = some characters ↔
      Readable field.value ∧ (withoutPadding field.value).map character = characters := by
  have checked :
      (withoutPadding field.value).all isFieldByte = true ↔ Readable field.value :=
    List.all_eq_true.trans (readable_withoutPadding_iff field.value)
  rw [HeaderField.text?]
  by_cases readable : Readable field.value
  · rw [if_pos (checked.mpr readable), Option.some_inj]
    exact (and_iff_right readable).symm
  · rw [if_neg (mt checked.mp readable)]
    exact ⟨nofun, fun ⟨here, _⟩ => absurd here readable⟩

/-- Of the bytes of text exactly the spaces and tabs are blank. -/
theorem isBlank_character
    {byte : UInt8}
    (readable : isFieldByte byte = true) :
    Text.isBlank (character byte) = isPadding byte := by
  have every :
      ∀ number : Fin 256,
        isFieldByte (UInt8.ofNat number) = true →
          Text.isBlank (Char.ofNat number) = isPadding (UInt8.ofNat number) := by
    decide +kernel
  have here := every ⟨byte.toNat, byte.toNat_lt⟩
  rw [UInt8.ofNat_toNat] at here
  exact here readable

theorem toNat_lt_of_isFieldByte
    {byte : UInt8}
    (readable : isFieldByte byte = true) :
    byte.toNat < 128 := by
  simp only [isFieldByte, Bool.or_eq_true, beq_iff_eq, Bool.and_eq_true,
    decide_eq_true_eq] at readable
  rcases readable with rfl | ⟨-, most⟩
  · decide
  · exact Nat.lt_of_le_of_lt (UInt8.le_iff_toNat_le.mp most) (by decide)

theorem toNat_character
    {byte : UInt8}
    (readable : isFieldByte byte = true) :
    (character byte).toNat = byte.toNat := by
  have small := toNat_lt_of_isFieldByte readable
  have valid : byte.toNat.isValidChar := .inl (by omega)
  rw [character, Char.ofNat, dif_pos valid]
  rfl

/-- The characters of bytes are those of a text exactly if the bytes are. -/
theorem map_character_eq_toList_iff
    {bytes : Bytes}
    (readable : Readable bytes)
    (text : String) :
    bytes.map character = text.toList ↔ bytes = Bytes.ofText text := by
  have small : ∀ c ∈ bytes.map character, c.toNat < 128 := by
    intro c member
    obtain ⟨byte, here, rfl⟩ := List.mem_map.mp member
    rw [toNat_character (readable byte here)]
    exact toNat_lt_of_isFieldByte (readable byte here)
  have written : Bytes.ofText (String.ofList (bytes.map character)) = bytes := by
    rw [Bytes.ofText_ofList, Bytes.ofChars_of_lt small, List.map_map]
    conv => rhs; rw [← List.map_id bytes]
    apply List.map_congr_left
    intro byte here
    rw [Function.comp_apply, toNat_character (readable byte here), UInt8.ofNat_toNat]
    rfl
  constructor
  · intro same
    rw [same, String.ofList_toList] at written
    exact written.symm
  · intro same
    rw [← written] at same
    rw [← Bytes.ofText_injective same, String.toList_ofList]

/-- Spaces and tabs are blank characters. -/
theorem isBlank_of_padding
    {bytes : Bytes}
    (padding : ∀ byte ∈ bytes, isPadding byte = true) :
    ∀ c ∈ bytes.map character, Text.isBlank c = true := by
  rw [List.forall_mem_map]
  intro byte here
  rw [isBlank_character (readable_of_padding padding byte here)]
  exact padding byte here

theorem trimmed_map_character_iff
    {bytes : Bytes}
    (readable : Readable bytes) :
    Text.Trimmed Text.isBlank (bytes.map character) ↔ Text.Trimmed isPadding bytes :=
  Text.trimmed_map_iff fun byte here => isBlank_character (readable byte here)

/-- Trimming characters is leaving out the spaces and tabs around their bytes. -/
theorem trim_map_character
    {bytes : Bytes}
    (readable : Readable bytes) :
    Text.trim (bytes.map character) = (withoutPadding bytes).map character := by
  obtain ⟨around, trimmed⟩ := (withoutPadding_eq_iff bytes _).mp rfl
  generalize withoutPadding bytes = core at around trimmed ⊢
  have coreReadable := (readable_around around).mp readable
  refine (Text.trim_eq_iff _ _).mpr ⟨?_, (trimmed_map_character_iff coreReadable).mpr trimmed⟩
  obtain ⟨frontPadding, behindPadding⟩ := around
  rw [List.map_append, List.map_append]
  exact .intro (isBlank_of_padding frontPadding) (isBlank_of_padding behindPadding)

/-- The text of the bytes without the spaces and tabs around them is a key exactly if the
bytes are the key with some around it. -/
theorem withoutPadding_map_character_eq_toList_iff
    {value : Bytes}
    {key : String}
    (tidy : Text.Trimmed Text.isBlank key.toList)
    (readable : Readable value) :
    (withoutPadding value).map character = key.toList ↔ Plain key value := by
  have core := (readable_withoutPadding_iff value).mpr readable
  rw [map_character_eq_toList_iff core, withoutPadding_eq_iff]
  constructor
  · exact fun ⟨around, _⟩ => around
  · intro around
    have keyReadable := (readable_around around).mp readable
    refine ⟨around, (trimmed_map_character_iff keyReadable).mp ?_⟩
    rw [(map_character_eq_toList_iff keyReadable key).mpr rfl]
    exact tidy

/-! ## Behind `Bearer ` -/

theorem following?_eq_some_iff (front characters rest : List Char) :
    following? front characters = some rest ↔ characters = front ++ rest := by
  induction front generalizing characters with
  | nil => exact Option.some_inj
  | cons expected front inductionHypothesis =>
      cases characters with
      | nil => exact ⟨nofun, nofun⟩
      | cons c characters =>
          rw [following?, List.cons_append, List.cons_eq_cons, eq_comm (a := c)]
          by_cases same : expected = c
          · rw [if_pos same, inductionHypothesis]
            exact (and_iff_right same).symm
          · rw [if_neg same]
            exact ⟨nofun, fun ⟨equal, _⟩ => absurd equal same⟩

theorem map_character_bearer : bearer.map character = "Bearer ".toList :=
  (map_character_eq_toList_iff readable_bearer "Bearer ").mpr rfl

/-- What is found behind `Bearer ` in text is what stands there in its bytes. -/
theorem following?_map_character
    {value : Bytes}
    (readable : Readable value)
    (rest : List Char) :
    following? "Bearer ".toList (value.map character) = some rest ↔
      ∃ token, value = bearer ++ token ∧ rest = token.map character := by
  rw [following?_eq_some_iff]
  constructor
  · intro split
    obtain ⟨front, token, rfl, frontCharacters, tokenCharacters⟩ :=
      List.map_eq_append_iff.mp split
    have frontReadable := (readable_append.mp readable).1
    have isBearer :=
      (map_character_eq_toList_iff frontReadable "Bearer ").mp frontCharacters
    exact ⟨token, by rw [isBearer]; rfl, tokenCharacters.symm⟩
  · rintro ⟨token, rfl, rfl⟩
    rw [List.map_append, map_character_bearer]

theorem withoutPadding_ne_nil_iff (value : Bytes) :
    withoutPadding value ≠ [] ↔ Filled value := by
  obtain ⟨around, trimmed⟩ := (withoutPadding_eq_iff value _).mp rfl
  generalize withoutPadding value = core at around trimmed ⊢
  obtain ⟨frontPadding, behindPadding⟩ := around
  constructor
  · intro nonempty
    obtain ⟨first, rest, rfl⟩ := List.exists_cons_of_ne_nil nonempty
    refine ⟨first, ?_, trimmed.first first rfl⟩
    exact List.mem_append_left _ (List.mem_append_right _ List.mem_cons_self)
  · rintro ⟨byte, member, visible⟩ rfl
    rw [List.append_nil] at member
    have padding := List.forall_mem_append.mpr ⟨frontPadding, behindPadding⟩ byte member
    rw [visible] at padding
    exact absurd padding Bool.false_ne_true

/-- What stands behind `Bearer ` at the end of a trimmed value is not only spaces and
tabs: `Bearer ` itself ends with a space. -/
theorem filled_of_trimmed
    {token : Bytes}
    (trimmed : Text.Trimmed isPadding (bearer ++ token)) :
    Filled token := by
  rcases eq_or_ne token [] with rfl | nonempty
  · have padding : isPadding 32 = false := by
      apply trimmed.last
      rw [List.append_nil, bearer, Bytes.ofText_eq_ofChars]
      rfl
    exact absurd padding (by decide)
  · refine ⟨token.getLast nonempty, List.getLast_mem nonempty, ?_⟩
    apply trimmed.last
    rw [List.getLast?_append_of_ne_nil _ nonempty]
    exact List.getLast?_eq_some_getLast nonempty

theorem trimmed_bearer_append
    {token : Bytes}
    (nonempty : token ≠ [])
    (visible : ∀ byte ∈ token.getLast?, isPadding byte = false) :
    Text.Trimmed isPadding (bearer ++ token) where
  first byte here := by
    rw [bearer, Bytes.ofText_eq_ofChars] at here
    obtain rfl : byte = 66 := (Option.some.inj here).symm
    rfl
  last byte here := by
    rw [List.getLast?_append_of_ne_nil _ nonempty] at here
    exact visible byte here

/-- The spaces and tabs in front of `Bearer ` and behind the key do not matter, and
neither do those between the two. -/
theorem behindBearer_iff
    (core : Bytes → Prop)
    (nonempty : ¬ core [])
    (value : Bytes) :
    BehindBearer (fun token => core (withoutPadding token)) value ↔
      ∃ token, withoutPadding value = bearer ++ token ∧ core (withoutPadding token) := by
  constructor
  · rintro @⟨front, token, padding, shaped⟩
    obtain ⟨around, trimmed⟩ := (withoutPadding_eq_iff token _).mp rfl
    generalize withoutPadding token = key at around trimmed shaped
    obtain @⟨tokenFront, tokenBehind, frontPadding, behindPadding⟩ := around
    have filled : key ≠ [] := fun empty => nonempty (empty ▸ shaped)
    have inner : Text.Around isPadding key (tokenFront ++ key) :=
      (Text.Around.refl key).append_front frontPadding
    have outer :
        Text.Around isPadding (bearer ++ (tokenFront ++ key))
          (front ++ bearer ++ (tokenFront ++ key ++ tokenBehind)) := by
      have around := (Text.Around.refl (bearer ++ (tokenFront ++ key))).append_front padding
      simpa only [List.append_assoc] using around.append_behind behindPadding
    have visible : ∀ byte ∈ (tokenFront ++ key).getLast?, isPadding byte = false := by
      rw [List.getLast?_append_of_ne_nil _ filled]
      exact trimmed.last
    refine ⟨tokenFront ++ key, ?_, ?_⟩
    · refine (withoutPadding_eq_iff _ _).mpr ⟨outer, trimmed_bearer_append ?_ visible⟩
      exact List.append_ne_nil_of_right_ne_nil _ filled
    · rw [(withoutPadding_eq_iff _ _).mpr ⟨inner, trimmed⟩]
      exact shaped
  · rintro ⟨token, whole, shaped⟩
    obtain ⟨around, -⟩ := (withoutPadding_eq_iff value _).mp whole
    obtain @⟨front, behind, frontPadding, behindPadding⟩ := around
    have same : withoutPadding (token ++ behind) = withoutPadding token := by
      obtain ⟨around, trimmed⟩ := (withoutPadding_eq_iff token _).mp rfl
      exact (withoutPadding_eq_iff _ _).mpr ⟨around.append_behind behindPadding, trimmed⟩
    have behindBearer :
        BehindBearer (fun token => core (withoutPadding token))
          (front ++ bearer ++ (token ++ behind)) := by
      refine .intro frontPadding ?_
      rw [same]
      exact shaped
    simpa only [List.append_assoc] using behindBearer

theorem presentsBearer_iff (value : Bytes) :
    PresentsBearer value ↔
      Readable value ∧ ∃ token, withoutPadding value = bearer ++ token := by
  have behind :
      BehindBearer Filled value ↔
        ∃ token, withoutPadding value = bearer ++ token ∧ Filled token := by
    have bearers := behindBearer_iff (· ≠ []) (fun filled => filled rfl) value
    simpa only [withoutPadding_ne_nil_iff] using bearers
  constructor
  · rintro ⟨readable, presents⟩
    obtain ⟨token, split, -⟩ := behind.mp presents
    exact ⟨readable, token, split⟩
  · rintro ⟨readable, token, split⟩
    have filled := filled_of_trimmed ((withoutPadding_eq_iff _ _).mp split).2
    exact ⟨readable, behind.mpr ⟨token, split, filled⟩⟩

theorem behindBearer_congr
    {shape otherShape : Bytes → Prop}
    (same : ∀ token, Readable token → (shape token ↔ otherShape token))
    {value : Bytes}
    (readable : Readable value) :
    BehindBearer shape value ↔ BehindBearer otherShape value := by
  constructor
  · rintro ⟨padding, shaped⟩
    exact .intro padding ((same _ (readable_append.mp readable).2).mp shaped)
  · rintro ⟨padding, shaped⟩
    exact .intro padding ((same _ (readable_append.mp readable).2).mpr shaped)

/-! ## In the header fields of a request -/

/-- Whether a field of a name has a value of a shape. -/
def Carries (request : Request) (name : String) (shape : Bytes → Prop) : Prop :=
  ∃ field ∈ request.headers, field.isNamed name = true ∧ shape field.value

/-- Whether there is at most one field of a name. -/
def AtMostOnce (request : Request) (name : String) : Prop :=
  (request.headers.filter (HeaderField.isNamed name)).length ≤ 1

instance (request : Request) (name : String) : Decidable (AtMostOnce request name) :=
  inferInstanceAs (Decidable (_ ≤ 1))

theorem carries_congr
    {request : Request}
    {name : String}
    {shape otherShape : Bytes → Prop}
    (same : ∀ value, shape value ↔ otherShape value) :
    Carries request name shape ↔ Carries request name otherShape :=
  exists_congr fun field => and_congr_right fun _ => and_congr_right fun _ => same field.value

theorem carries_and
    {request : Request}
    {name : String}
    {fact : Prop}
    {shape : Bytes → Prop} :
    Carries request name (fun value => fact ∧ shape value) ↔
      fact ∧ Carries request name shape := by
  constructor
  · rintro ⟨field, member, named, here, shaped⟩
    exact ⟨here, field, member, named, shaped⟩
  · rintro ⟨here, field, member, named, shaped⟩
    exact ⟨field, member, named, here, shaped⟩

/-- Whether the first field of a name has a value of a shape. -/
def CarriesFirst (request : Request) (name : String) (shape : Bytes → Prop) : Prop :=
  ∃ before field after,
    request.headers = before ++ field :: after ∧
      (∀ other ∈ before, other.isNamed name = false) ∧
      field.isNamed name = true ∧
      shape field.value

theorem carriesFirst_iff
    {request : Request}
    {name : String}
    {shape : Bytes → Prop} :
    CarriesFirst request name shape ↔
      ∃ field,
        request.headers.find? (HeaderField.isNamed name) = some field ∧ shape field.value := by
  constructor
  · rintro ⟨before, field, after, split, others, named, shaped⟩
    refine ⟨field, List.find?_eq_some_iff_append.mpr ⟨named, before, after, split, ?_⟩, shaped⟩
    intro other member
    rw [others other member]
    rfl
  · rintro ⟨field, found, shaped⟩
    obtain ⟨named, before, after, split, others⟩ := List.find?_eq_some_iff_append.mp found
    refine ⟨before, field, after, split, ?_, named, shaped⟩
    intro other member
    simpa using others other member

theorem carriesFirst_congr
    {request : Request}
    {name : String}
    {shape otherShape : Bytes → Prop}
    (same : ∀ value, shape value ↔ otherShape value) :
    CarriesFirst request name shape ↔ CarriesFirst request name otherShape := by
  rw [carriesFirst_iff, carriesFirst_iff]
  exact exists_congr fun field => and_congr_right fun _ => same field.value

/-- The only field of a name is the first one. -/
theorem carriesFirst_iff_carries
    {request : Request}
    {name : String}
    {shape : Bytes → Prop}
    (once : AtMostOnce request name) :
    CarriesFirst request name shape ↔ Carries request name shape := by
  rw [carriesFirst_iff, Carries]
  refine exists_congr fun field => ?_
  rw [← and_assoc, ← List.head?_filter, ← List.mem_filter]
  refine and_congr_left fun _ => ⟨List.mem_of_head?, ?_⟩
  intro member
  obtain ⟨only, single⟩ :=
    List.length_eq_one_iff.mp (Nat.le_antisymm once (List.length_pos_of_mem member))
  rw [single] at member ⊢
  rw [List.mem_singleton.mp member]
  rfl

/-- Of the fields of a name the first one is looked at. -/
theorem header?_eq_some_iff_first
    {request : Request}
    {name : String}
    (characters : List Char) :
    request.header? name = some characters ↔
      CarriesFirst request name fun value =>
        Readable value ∧ (withoutPadding value).map character = characters := by
  rw [Request.header?, Option.bind_eq_some_iff, carriesFirst_iff]
  exact exists_congr fun field => and_congr_right fun _ => text?_eq_some_iff field characters

/-- The only field of a name is the one that is looked at. -/
theorem header?_eq_some_iff
    {request : Request}
    {name : String}
    (once : AtMostOnce request name)
    (characters : List Char) :
    request.header? name = some characters ↔
      Carries request name fun value =>
        Readable value ∧ (withoutPadding value).map character = characters := by
  rw [header?_eq_some_iff_first, carriesFirst_iff_carries once]

variable {key : String} {request : Request}

theorem bearerKey?_eq_some_iff_first (presented : List Char) :
    bearerKey? request = some presented ↔
      CarriesFirst request "authorization" fun value =>
        Readable value ∧
          ∃ token, withoutPadding value = bearer ++ token ∧
            (withoutPadding token).map character = presented := by
  have parts :
      bearerKey? request = some presented ↔
        ∃ characters, request.header? "authorization" = some characters ∧
          ∃ rest, following? "Bearer ".toList characters = some rest ∧
            Text.trim rest = presented := by
    simp only [bearerKey?, Option.bind_eq_bind, Option.bind_eq_some_iff, Option.pure_def,
      Option.some_inj]
  rw [parts]
  constructor
  · rintro ⟨characters, header, rest, behind, rfl⟩
    obtain ⟨before, field, after, split, others, named, readable, rfl⟩ :=
      (header?_eq_some_iff_first _).mp header
    have core := (readable_withoutPadding_iff field.value).mpr readable
    obtain ⟨token, shape, rfl⟩ := (following?_map_character core rest).mp behind
    have tokenReadable := (readable_append.mp (shape ▸ core)).2
    exact ⟨before, field, after, split, others, named, readable, token, shape,
      (trim_map_character tokenReadable).symm⟩
  · rintro ⟨before, field, after, split, others, named, readable, token, shape, rfl⟩
    have core := (readable_withoutPadding_iff field.value).mpr readable
    have tokenReadable := (readable_append.mp (shape ▸ core)).2
    refine ⟨(withoutPadding field.value).map character, ?_, token.map character, ?_, ?_⟩
    · exact (header?_eq_some_iff_first _).mpr
        ⟨before, field, after, split, others, named, readable, rfl⟩
    · exact (following?_map_character core _).mpr ⟨token, shape, rfl⟩
    · exact trim_map_character tokenReadable

theorem bearerKey?_eq_some_iff
    (once : AtMostOnce request "authorization")
    (presented : List Char) :
    bearerKey? request = some presented ↔
      Carries request "authorization" fun value =>
        Readable value ∧
          ∃ token, withoutPadding value = bearer ++ token ∧
            (withoutPadding token).map character = presented := by
  rw [bearerKey?_eq_some_iff_first, carriesFirst_iff_carries once]

theorem readable_and_behindBearer_plain_iff (value : Bytes) :
    (Readable value ∧ BehindBearer (Plain key) value) ↔
      Readable (Bytes.ofText key) ∧ BehindBearer (Plain key) value := by
  apply and_congr_left
  rintro ⟨padding, plain⟩
  rw [readable_append, readable_append, readable_around plain]
  exact ⟨fun ⟨_, readable⟩ => readable,
    fun readable => ⟨⟨readable_of_padding padding, readable_bearer⟩, readable⟩⟩

theorem bearerKey?_eq_key_iff
    (nonempty : key ≠ "")
    (tidy : Text.Trimmed Text.isBlank key.toList)
    (once : AtMostOnce request "authorization") :
    bearerKey? request = some key.toList ↔
      Readable (Bytes.ofText key) ∧
        Carries request "authorization" (BehindBearer (Plain key)) := by
  rw [bearerKey?_eq_some_iff once, ← carries_and]
  refine carries_congr fun value => ?_
  rw [← readable_and_behindBearer_plain_iff]
  refine and_congr_right fun readable => ?_
  have characters :
      ∀ token, Readable token →
        (Plain key token ↔ (withoutPadding token).map character = key.toList) :=
    fun token here => (withoutPadding_map_character_eq_toList_iff tidy here).symm
  rw [behindBearer_congr characters readable]
  refine (behindBearer_iff (fun core => core.map character = key.toList) ?_ value).symm
  intro none
  exact nonempty (String.toList_eq_nil_iff.mp none.symm)

theorem bearerKey?_eq_none_iff_first :
    bearerKey? request = none ↔ ¬ CarriesFirst request "authorization" PresentsBearer := by
  rw [Option.eq_none_iff_forall_ne_some, ← not_exists]
  refine not_congr ⟨?_, ?_⟩
  · rintro ⟨presented, here⟩
    obtain ⟨before, field, after, split, others, named, readable, token, shape, -⟩ :=
      (bearerKey?_eq_some_iff_first presented).mp here
    exact ⟨before, field, after, split, others, named,
      (presentsBearer_iff _).mpr ⟨readable, token, shape⟩⟩
  · rintro ⟨before, field, after, split, others, named, presents⟩
    obtain ⟨readable, token, shape⟩ := (presentsBearer_iff _).mp presents
    exact ⟨(withoutPadding token).map character,
      (bearerKey?_eq_some_iff_first _).mpr
        ⟨before, field, after, split, others, named, readable, token, shape, rfl⟩⟩

theorem bearerKey?_eq_none_iff (once : AtMostOnce request "authorization") :
    bearerKey? request = none ↔ ¬ Carries request "authorization" PresentsBearer := by
  rw [bearerKey?_eq_none_iff_first, carriesFirst_iff_carries once]

theorem apiKey_eq_key_iff
    (tidy : Text.Trimmed Text.isBlank key.toList)
    (once : AtMostOnce request "x-api-key") :
    (request.header? "x-api-key").map Text.trim = some key.toList ↔
      Readable (Bytes.ofText key) ∧ Carries request "x-api-key" (Plain key) := by
  have sameReadable :
      ∀ value, (Readable value ∧ Plain key value) ↔
        Readable (Bytes.ofText key) ∧ Plain key value :=
    fun _ => and_congr_left fun plain => readable_around plain
  rw [Option.map_eq_some_iff, ← carries_and, ← carries_congr sameReadable]
  constructor
  · rintro ⟨characters, header, trimmed⟩
    obtain ⟨field, member, named, readable, rfl⟩ := (header?_eq_some_iff once _).mp header
    have core := (readable_withoutPadding_iff field.value).mpr readable
    rw [trim_map_character core, withoutPadding_withoutPadding] at trimmed
    exact ⟨field, member, named, readable,
      (withoutPadding_map_character_eq_toList_iff tidy readable).mp trimmed⟩
  · rintro ⟨field, member, named, readable, plain⟩
    have core := (readable_withoutPadding_iff field.value).mpr readable
    refine ⟨_, (header?_eq_some_iff once _).mpr ⟨field, member, named, readable, rfl⟩, ?_⟩
    rw [trim_map_character core, withoutPadding_withoutPadding]
    exact (withoutPadding_map_character_eq_toList_iff tidy readable).mpr plain

theorem authorize_eq_ok_iff (nonempty : key ≠ "") :
    authorize (some key) request = .ok () ↔ presentedKey? request = some key.toList := by
  have filled : key.isEmpty ≠ true := fun empty => nonempty (String.isEmpty_iff.mp empty)
  simp only [authorize, if_neg filled]
  cases presentedKey? request with
  | none => exact ⟨nofun, nofun⟩
  | some presented =>
      by_cases same : presented = key.toList
      · simp only [same, ↓reduceIte]
      · simp only [same, ↓reduceIte, Option.some_inj, reduceCtorEq]

/-- Where there is administration, whoever is not let in learns whether a key was
presented. -/
theorem authorize_eq_ok_or
    (nonempty : key ≠ "")
    (request : Request) :
    authorize (some key) request = .ok () ∨
      authorize (some key) request =
        .error (.unauthorized
          (if (presentedKey? request).isSome then "invalid admin key"
            else "admin key required")) := by
  have filled : key.isEmpty ≠ true := fun empty => nonempty (String.isEmpty_iff.mp empty)
  simp only [authorize, if_neg filled]
  cases presentedKey? request with
  | none => exact .inr rfl
  | some presented =>
      by_cases same : presented = key.toList
      · exact .inl (if_pos same)
      · exact .inr (if_neg same)

/-- With a key configured, who is not let in is told to be unauthorized. -/
theorem authorize_cases (nonempty : key ≠ "") :
    authorize (some key) request = .ok () ∨
      ∃ detail, authorize (some key) request = .error (.unauthorized detail) :=
  (authorize_eq_ok_or nonempty request).imp_right fun refused => ⟨_, refused⟩

/-- A request to end the session, with a key field and perhaps an authorization field. -/
def endingRequest (authorization : Option String) (apiKey : String) : Request where
  method := "DELETE"
  target := "/v1/session"
  headers :=
    (authorization.map fun value => ⟨"Authorization", Bytes.ofText value⟩).toList ++
      [⟨"X-API-Key", Bytes.ofText apiKey⟩]
  body := []

/-- A request is let in exactly if its authorization field holds the configured key behind
`Bearer `, or its key field holds the configured key and the authorization field presents
none.  A key that is not ASCII text lets nobody in. -/
theorem authorized_by_bearer_or_lone_apiKey
    (nonempty : key ≠ "")
    (tidy : Text.Trimmed Text.isBlank key.toList)
    (authorizationOnce : AtMostOnce request "authorization")
    (apiKeyOnce : AtMostOnce request "x-api-key") :
    (authorize (some key) request = .ok () ↔
        Readable (Bytes.ofText key) ∧
          (Carries request "authorization" (BehindBearer (Plain key)) ∨
            Carries request "x-api-key" (Plain key) ∧
              ¬ Carries request "authorization" PresentsBearer)) ∧
      (authorize (some key) request = .ok () ∨
        ∃ detail, authorize (some key) request = .error (.unauthorized detail)) := by
  refine ⟨?_, authorize_cases nonempty⟩
  have bearerFirst :
      presentedKey? request = some key.toList ↔
        bearerKey? request = some key.toList ∨
          bearerKey? request = none ∧
            (request.header? "x-api-key").map Text.trim = some key.toList :=
    Option.orElse_eq_some _ _ _
  rw [authorize_eq_ok_iff nonempty, bearerFirst,
    bearerKey?_eq_key_iff nonempty tidy authorizationOnce,
    bearerKey?_eq_none_iff authorizationOnce, apiKey_eq_key_iff tidy apiKeyOnce,
    and_left_comm, ← and_or_left]
  exact and_congr_right fun _ => or_congr_right and_comm

/-- Another scheme in the authorization field, and the key with a space and a tab around
it. -/
theorem authorized_by_bearer_or_lone_apiKey_other_scheme :
    let request := endingRequest (some "Basic other") " secret\t"
    "secret" ≠ "" ∧
      Text.Trimmed Text.isBlank "secret".toList ∧
      AtMostOnce request "authorization" ∧
      AtMostOnce request "x-api-key" ∧
      authorize (some "secret") request = .ok () := by
  intro request
  have nonempty : "secret" ≠ "" := by decide
  have tidy : Text.Trimmed Text.isBlank "secret".toList := by decide +kernel
  have authorizationOnce : AtMostOnce request "authorization" := by decide +kernel
  have apiKeyOnce : AtMostOnce request "x-api-key" := by decide +kernel
  refine ⟨nonempty, tidy, authorizationOnce, apiKeyOnce, ?_⟩
  have noneBehindBearer : ¬ Carries request "authorization" PresentsBearer :=
    (bearerKey?_eq_none_iff authorizationOnce).mp (by decide +kernel)
  have inKeyField : Carries request "x-api-key" (Plain "secret") := by
    refine ⟨⟨"X-API-Key", Bytes.ofText " secret\t"⟩, by decide +kernel, by decide +kernel, ?_⟩
    exact ((withoutPadding_eq_iff _ _).mp (by decide +kernel)).1
  have readable : Readable (Bytes.ofText "secret") := by decide +kernel
  exact (authorized_by_bearer_or_lone_apiKey nonempty tidy authorizationOnce apiKeyOnce).1.mpr
    ⟨readable, .inr ⟨inKeyField, noneBehindBearer⟩⟩

/-- The right key in the key field is refused because of a wrong one behind `Bearer `, and
a key that is not ASCII is refused though nothing else is presented. -/
theorem unauthorized_though_carried :
    let shadowed := endingRequest (some "Bearer other") "secret"
    let foreign := endingRequest none "clé"
    (AtMostOnce shadowed "authorization" ∧
        AtMostOnce shadowed "x-api-key" ∧
        Carries shadowed "x-api-key" (Plain "secret") ∧
        authorize (some "secret") shadowed = .error (.unauthorized "invalid admin key")) ∧
      AtMostOnce foreign "authorization" ∧
      AtMostOnce foreign "x-api-key" ∧
      Carries foreign "x-api-key" (Plain "clé") ∧
      authorize (some "clé") foreign = .error (.unauthorized "admin key required") := by
  intro shadowed foreign
  have secretCarried : Carries shadowed "x-api-key" (Plain "secret") :=
    ⟨⟨"X-API-Key", Bytes.ofText "secret"⟩, by decide +kernel, by decide +kernel, .refl _⟩
  have foreignCarried : Carries foreign "x-api-key" (Plain "clé") :=
    ⟨⟨"X-API-Key", Bytes.ofText "clé"⟩, by decide +kernel, by decide +kernel, .refl _⟩
  refine ⟨⟨?_, ?_, secretCarried, ?_⟩, ?_, ?_, foreignCarried, ?_⟩ <;> decide +kernel

end OrderCustody.Gateway
