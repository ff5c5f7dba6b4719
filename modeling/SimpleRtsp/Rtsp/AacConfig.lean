import SimpleRtsp.Lib.Numeral
import SimpleRtsp.Rtsp.Sdp

/-!
# The AAC configuration in a description

A receiver reads the `config` of the description as four hexadecimal digits, the two bytes of an
`AudioSpecificConfig`. `generateSDP` prints the bytes in hexadecimal, but then reads them back with
`atoi` and prints the number in decimal, so a digit above 9 cuts the text off; and it takes the
number of channels as it is, where HE-AACv2 halves it for an ADTS header. `configRight_iff` says for
which streams the receiver gets what an ADTS header would have told it.
-/

namespace SimpleRtsp

open CString

/-- What a decoder has to know. -/
structure AacConfig where
  objectType : Nat
  frequencyIndex : Nat
  channelConfig : Nat
  deriving DecidableEq

namespace AacConfig

/-- The fields fit in their bits. -/
structure Fits (c : AacConfig) : Prop where
  objectType : c.objectType < 32
  frequencyIndex : c.frequencyIndex < 16
  channelConfig : c.channelConfig < 16

/-- `AudioSpecificConfig`: five bits, four bits, four bits, and three bits that are 0. -/
def bytes (c : AacConfig) : List UInt8 :=
  let bits := c.objectType * 2048 + c.frequencyIndex * 128 + c.channelConfig * 8
  [UInt8.ofNat (bits / 256), UInt8.ofNat bits]

def digits (c : AacConfig) : List Nat :=
  [(8 * c.objectType + c.frequencyIndex / 2) / 16, (8 * c.objectType + c.frequencyIndex / 2) % 16,
    (128 * (c.frequencyIndex % 2) + 8 * c.channelConfig) / 16,
    (128 * (c.frequencyIndex % 2) + 8 * c.channelConfig) % 16]

end AacConfig

def hexValue (b : UInt8) : Option Nat :=
  if isdigit b then some (b.toNat - 0x30)
  else if 0x61 ≤ b ∧ b ≤ 0x66 then some (b.toNat - 0x57)
  else none

/-- How a receiver reads the `config` of a description. -/
def decodeConfig (text : List UInt8) : Option AacConfig :=
  match text.map hexValue with
  | [some a, some b, some c, some d] =>
    let bits := ((a * 16 + b) * 16 + c) * 16 + d
    some ⟨bits / 2048, bits / 128 % 16, bits / 8 % 16⟩
  | _ => none

/-- What an ADTS header says. -/
def decodeAdts (header : List UInt8) : AacConfig :=
  let profile := header.getD 2 0
  ⟨(profile >>> 6).toNat + 1, ((profile >>> 2) &&& 0x0F).toNat,
    (((profile &&& 0x01) <<< 2) ||| (header.getD 3 0 >>> 6)).toNat⟩

/-- What the functions of the source say about a stream. -/
def MediaInfo.config (info : MediaInfo) : AacConfig where
  objectType := getAudioObjType info.profile
  frequencyIndex := getSampleRateIndex info.audioSampleRate info.profile
  channelConfig := (getChannelConfig info.audioChannels info.profile).toNat

/-- The `config` of the description is right: it is the text of the configuration, and a receiver
reads from it what an ADTS header says. -/
structure ConfigRight (info : MediaInfo) : Prop where
  text : configText info = hex info.config.bytes
  decoded : ∀ dataLen, decodeConfig (configText info) =
    some (decodeAdts (adtsHeader dataLen info.profile info.audioSampleRate info.audioChannels))

/-- The channels are not halved, and no digit of the text is above 9: of the first byte none for
the object types 1 and 3, of the second byte none for an odd index. -/
structure ConfigDecimal (info : MediaInfo) : Prop where
  whole : info.profile ≠ 28
  first : info.profile = 0 ∨ info.profile = 2 →
    getSampleRateIndex info.audioSampleRate info.profile < 4
  second : getSampleRateIndex info.audioSampleRate info.profile % 2 = 1 → info.audioChannels < 4

/-! ## The digits -/

theorem isdigit_hexDigit : ∀ n < 16, (isdigit (hexDigit n) = true ↔ n < 10) := by decide

theorem hexValue_hexDigit : ∀ n < 16, hexValue (hexDigit n) = some n := by decide

theorem hexDigit_head : ∀ n < 16,
    isspace (hexDigit n) = false ∧ hexDigit n ≠ 0x2D ∧ hexDigit n ≠ 0x2B := by decide

theorem hex_ofNat {m n : Nat} (hm : m < 256) (hn : n < 256) :
    hex [UInt8.ofNat m, UInt8.ofNat n] =
      [m / 16, m % 16, n / 16, n % 16].map hexDigit := by
  have hbyte : ∀ k < 256, (UInt8.ofNat k).toNat = k := fun k hk => UInt8.toNat_ofNat_of_lt' hk
  simp [hex, hbyte m hm, hbyte n hn]

namespace AacConfig

variable {c c' : AacConfig}

theorem hex_bytes (h : c.Fits) : hex c.bytes = c.digits.map hexDigit := by
  obtain ⟨hobject, hindex, hchannel⟩ := h
  have hlow : UInt8.ofNat (c.objectType * 2048 + c.frequencyIndex * 128 + c.channelConfig * 8) =
      UInt8.ofNat (128 * (c.frequencyIndex % 2) + 8 * c.channelConfig) := by
    apply UInt8.toNat_inj.mp
    rw [UInt8.toNat_ofNat', UInt8.toNat_ofNat']
    omega
  have hhigh : (c.objectType * 2048 + c.frequencyIndex * 128 + c.channelConfig * 8) / 256 =
      8 * c.objectType + c.frequencyIndex / 2 := by
    omega
  rw [bytes, digits, hlow, hhigh]
  exact hex_ofNat (by omega) (by omega)

theorem digits_lt (h : c.Fits) : ∀ d ∈ c.digits, d < 16 := by
  obtain ⟨hobject, hindex, hchannel⟩ := h
  simp only [digits, List.forall_mem_cons]
  refine ⟨?_, ?_, ?_, ?_, fun d hd => absurd hd List.not_mem_nil⟩ <;> omega

theorem isNumeral_iff (h : c.Fits) : IsNumeral (hex c.bytes) ↔ ∀ d ∈ c.digits, d < 10 := by
  rw [hex_bytes h, IsNumeral, List.forall_mem_map]
  exact forall₂_congr fun d hd => isdigit_hexDigit d (digits_lt h d hd)

theorem decode_hex (h : c.Fits) : decodeConfig (hex c.bytes) = some c := by
  have hread : c.digits.map (hexValue ∘ hexDigit) = c.digits.map some :=
    List.map_congr_left fun d hd => hexValue_hexDigit d (digits_lt h d hd)
  rw [hex_bytes h, decodeConfig, List.map_map, hread, digits]
  obtain ⟨hobject, hindex, hchannel⟩ := h
  simp only [List.map_cons, List.map_nil, Option.some.injEq]
  obtain ⟨o, i, ch⟩ := c
  simp only [mk.injEq]
  dsimp only at hobject hindex hchannel
  refine ⟨?_, ?_, ?_⟩ <;> omega

theorem hex_bytes_inj (h : c.Fits) (h' : c'.Fits) (heq : hex c.bytes = hex c'.bytes) : c = c' := by
  have hdecode := congrArg decodeConfig heq
  rw [decode_hex h, decode_hex h'] at hdecode
  exact Option.some.inj hdecode

def text (c : AacConfig) : List UInt8 := paddedDecimal 4 (unsigned (atoi (hex c.bytes)))

theorem length_hex_bytes (h : c.Fits) : (hex c.bytes).length = 4 := by
  rw [hex_bytes h]
  rfl

theorem text_eq (h : c.Fits) :
    c.text = paddedDecimal 4 (numeral ((hex c.bytes).takeWhile isdigit)) := by
  have hhead : ∀ b ∈ (hex c.bytes).head?, isspace b = false ∧ b ≠ 0x2D ∧ b ≠ 0x2B := by
    rw [hex_bytes h]
    rintro _ ⟨⟩
    exact hexDigit_head _ (digits_lt h _ List.mem_cons_self)
  have hlength : ((hex c.bytes).takeWhile isdigit).length ≤ 4 := by
    rw [← length_hex_bytes h]
    exact (List.takeWhile_prefix isdigit).length_le
  have hsmall : numeral ((hex c.bytes).takeWhile isdigit) < 0x100000000 := by
    calc numeral ((hex c.bytes).takeWhile isdigit)
      _ < 10 ^ ((hex c.bytes).takeWhile isdigit).length := numeral_lt (isNumeral_takeWhile _)
      _ ≤ 10 ^ 4 := Nat.pow_le_pow_right (by decide) hlength
      _ ≤ 0x100000000 := by decide
  rw [text, atoi_eq hhead (by omega), unsigned]
  congr 1
  omega

theorem text_eq_iff (h : c.Fits) : c.text = hex c.bytes ↔ IsNumeral (hex c.bytes) := by
  have hlength := length_hex_bytes h
  rw [text_eq h, ← hlength]
  apply paddedDecimal_numeral_iff
  intro hnil
  rw [hnil] at hlength
  cases hlength

theorem head?_text (h : c.Fits) (hcut : ¬ IsNumeral (hex c.bytes)) : c.text.head? = some 0x30 := by
  have hlength : ((hex c.bytes).takeWhile isdigit).length ≤ 3 := by
    by_contra hlong
    have hprefix : (hex c.bytes).takeWhile isdigit <+: hex c.bytes := List.takeWhile_prefix _
    have hle := hprefix.length_le
    have hwhole := hprefix.eq_of_length (by rw [length_hex_bytes h] at hle ⊢; omega)
    exact hcut (List.takeWhile_eq_self_iff.mp hwhole)
  rw [text_eq h]
  apply head?_paddedDecimal (by decide)
  calc numeral ((hex c.bytes).takeWhile isdigit)
    _ < 10 ^ ((hex c.bytes).takeWhile isdigit).length := numeral_lt (isNumeral_takeWhile _)
    _ ≤ 10 ^ 3 := Nat.pow_le_pow_right (by decide) hlength

end AacConfig

/-! ## The numbers of a stream -/

theorem getAudioObjType_pos (aactype : Int) :
    1 ≤ getAudioObjType aactype ∧ getAudioObjType aactype ≤ 4 := by
  rw [getAudioObjType]
  split_ifs <;> omega

theorem getAudioObjType_odd (aactype : Int) :
    getAudioObjType aactype % 2 = 1 ↔ aactype = 0 ∨ aactype = 2 := by
  rw [getAudioObjType]
  split_ifs
  · omega
  · exact ⟨False.elim, fun h => by omega⟩

theorem getSampleRateIndex_le (freq aactype : Int) : getSampleRateIndex freq aactype ≤ 12 := by
  rw [getSampleRateIndex]
  generalize (if aactype = 28 ∨ aactype = 4 then freq.tdiv 2 else freq) = rate
  cases hfind : freqArr.findIdx? (rate = ·) with
  | none => decide
  | some i =>
    obtain ⟨hi, -⟩ := List.findIdx?_eq_some_iff_getElem.mp hfind
    exact Nat.le_of_lt_succ hi

variable {info : MediaInfo}

/-- What `config` is filled with. -/
def MediaInfo.written (info : MediaInfo) : AacConfig where
  objectType := getAudioObjType info.profile
  frequencyIndex := getSampleRateIndex info.audioSampleRate info.profile
  channelConfig := info.audioChannels.toNat

theorem written_fits (h : 1 ≤ info.audioChannels ∧ info.audioChannels ≤ 7) :
    info.written.Fits where
  objectType := by
    have := (getAudioObjType_pos info.profile).2
    show getAudioObjType info.profile < 32
    omega
  frequencyIndex := by
    have := getSampleRateIndex_le info.audioSampleRate info.profile
    show getSampleRateIndex info.audioSampleRate info.profile < 16
    omega
  channelConfig := by
    show info.audioChannels.toNat < 16
    omega

theorem getChannelConfig_le (h : 1 ≤ info.audioChannels ∧ info.audioChannels ≤ 7) :
    0 ≤ getChannelConfig info.audioChannels info.profile ∧
      getChannelConfig info.audioChannels info.profile ≤ 7 := by
  rw [getChannelConfig]
  split_ifs
  · rw [Int.tdiv_eq_ediv_of_nonneg (by omega)]
    omega
  · omega

theorem config_fits (h : 1 ≤ info.audioChannels ∧ info.audioChannels ≤ 7) :
    info.config.Fits where
  objectType := (written_fits h).objectType
  frequencyIndex := (written_fits h).frequencyIndex
  channelConfig := by
    have := getChannelConfig_le h
    show (getChannelConfig info.audioChannels info.profile).toNat < 16
    omega

theorem written_bytes : ∀ o < 5, ∀ i < 13, ∀ n < 8,
    [UInt8.ofNat (o <<< 3) ||| UInt8.ofNat (i >>> 1),
      UInt8.ofNat (i <<< 7) ||| (UInt8.ofNat n <<< 3)] = (⟨o, i, n⟩ : AacConfig).bytes := by
  decide +kernel

theorem ofInt_of_nonneg {n : Int} (h : 0 ≤ n) : UInt8.ofInt n = UInt8.ofNat n.toNat := by
  obtain ⟨k, rfl⟩ := Int.eq_ofNat_of_zero_le h
  rw [Int.toNat_natCast]
  apply UInt8.toNat_inj.mp
  rw [UInt8.ofInt, UInt8.toNat_ofNat', UInt8.toNat_ofNat']
  omega

theorem configText_eq (h : 1 ≤ info.audioChannels ∧ info.audioChannels ≤ 7) :
    configText info = info.written.text := by
  have hobject := (getAudioObjType_pos info.profile).2
  have hindex := getSampleRateIndex_le info.audioSampleRate info.profile
  have hbytes : configBytes info = info.written.bytes := by
    rw [configBytes, ofInt_of_nonneg (by omega)]
    exact written_bytes _ (by omega) _ (by omega) _ (by omega)
  rw [configText, hbytes]
  rfl

theorem adts_fields : ∀ o < 5, 0 < o → ∀ i < 13, ∀ n < 8, ∀ l < 4,
    decodeAdts [0xFF, 0xF1,
      ((UInt8.ofNat o - 1) <<< 6) ||| ((UInt8.ofNat i &&& 0x0F) <<< 2) |||
        ((UInt8.ofNat n &&& 0x04) >>> 2),
      ((UInt8.ofNat n &&& 0x03) <<< 6) ||| UInt8.ofNat l] = ⟨o, i, n⟩ := by
  decide +kernel

theorem decodeAdts_adtsHeader (h : 1 ≤ info.audioChannels ∧ info.audioChannels ≤ 7)
    (dataLen : Nat) :
    decodeAdts (adtsHeader dataLen info.profile info.audioSampleRate info.audioChannels) =
      info.config := by
  have hobject := getAudioObjType_pos info.profile
  have hindex := getSampleRateIndex_le info.audioSampleRate info.profile
  have hchannel := getChannelConfig_le h
  have hlen : ((dataLen + 7) &&& 0x1800) >>> 11 < 4 := by
    have hand : (dataLen + 7) &&& 0x1800 ≤ 0x1800 := Nat.and_le_right
    rw [Nat.shiftRight_eq_div_pow]
    omega
  rw [adtsHeader, ofInt_of_nonneg hchannel.1]
  exact adts_fields _ (by omega) (by omega) _ (by omega) _ (by omega) _ hlen

/-! ## The text -/

theorem isNumeral_written_iff (h : 1 ≤ info.audioChannels ∧ info.audioChannels ≤ 7) :
    IsNumeral (hex info.written.bytes) ↔
      (getAudioObjType info.profile % 2 = 1 →
        getSampleRateIndex info.audioSampleRate info.profile < 4) ∧
      (getSampleRateIndex info.audioSampleRate info.profile % 2 = 1 →
        info.audioChannels < 4) := by
  have hobject := getAudioObjType_pos info.profile
  have hindex := getSampleRateIndex_le info.audioSampleRate info.profile
  rw [AacConfig.isNumeral_iff (written_fits h)]
  simp only [AacConfig.digits, MediaInfo.written, List.forall_mem_cons]
  constructor
  · rintro ⟨hhigh, hlow, hhigh', hlow', -⟩
    constructor <;> intro hodd <;> omega
  · rintro ⟨hfirst, hsecond⟩
    refine ⟨?_, ?_, ?_, ?_, fun d hd => absurd hd List.not_mem_nil⟩ <;> omega

theorem text_ne_of_halved (h : 1 ≤ info.audioChannels ∧ info.audioChannels ≤ 7)
    (hprofile : info.profile = 28) : info.written.text ≠ hex info.config.bytes := by
  have hindex := getSampleRateIndex_le info.audioSampleRate info.profile
  have hobject : getAudioObjType info.profile = 2 := by rw [hprofile]; rfl
  intro heq
  by_cases hnumeral : IsNumeral (hex info.written.bytes)
  · rw [(AacConfig.text_eq_iff (written_fits h)).mpr hnumeral] at heq
    have hconfig := AacConfig.hex_bytes_inj (written_fits h) (config_fits h) heq
    have hchannel : info.audioChannels.toNat =
        (getChannelConfig info.audioChannels info.profile).toNat :=
      congrArg AacConfig.channelConfig hconfig
    rw [getChannelConfig, if_pos hprofile, Int.tdiv_eq_ediv_of_nonneg (by omega)] at hchannel
    omega
  · -- the object type 2 makes the first digit a 1
    have hzero := AacConfig.head?_text (written_fits h) hnumeral
    have hone : (8 * getAudioObjType info.profile +
        getSampleRateIndex info.audioSampleRate info.profile / 2) / 16 = 1 := by
      omega
    rw [heq, AacConfig.hex_bytes (config_fits h), AacConfig.digits, MediaInfo.config] at hzero
    dsimp only at hzero
    rw [hone, List.map_cons, List.head?_cons] at hzero
    exact absurd hzero (by decide)

/-- **When the configuration survives.** The description has the right `config` if and only if the
channels are not halved and no digit of it is above 9. -/
theorem configRight_iff (info : MediaInfo)
    (h : 1 ≤ info.audioChannels ∧ info.audioChannels ≤ 7) :
    ConfigRight info ↔ ConfigDecimal info := by
  have hnumeral := isNumeral_written_iff h
  rw [getAudioObjType_odd] at hnumeral
  have hwhole : info.profile ≠ 28 → info.config = info.written := by
    intro hprofile
    rw [MediaInfo.config, getChannelConfig, if_neg hprofile]
    rfl
  constructor
  · intro hright
    have htext := hright.text
    rw [configText_eq h] at htext
    have hprofile : info.profile ≠ 28 := fun heq => text_ne_of_halved h heq htext
    rw [hwhole hprofile, AacConfig.text_eq_iff (written_fits h)] at htext
    exact ⟨hprofile, (hnumeral.mp htext).1, (hnumeral.mp htext).2⟩
  · rintro ⟨hprofile, hfirst, hsecond⟩
    have htext : configText info = hex info.config.bytes := by
      rw [configText_eq h, hwhole hprofile, AacConfig.text_eq_iff (written_fits h)]
      exact hnumeral.mpr ⟨hfirst, hsecond⟩
    refine ⟨htext, fun dataLen => ?_⟩
    rw [htext, AacConfig.decode_hex (config_fits h), decodeAdts_adtsHeader h]

def stereo (profile : Int) : MediaInfo where
  hasAudio := true
  hasVideo := false
  isVideoH26x := false
  videoType := .h264
  audioType := .aac
  isAudioAacPcma := true
  audioSampleRate := 44100
  audioChannels := 2
  profile := profile

/-- The low-complexity profile. -/
theorem configRight_lc : ConfigRight (stereo 1) :=
  (configRight_iff (stereo 1) (by decide)).mpr
    ⟨by decide, fun hprofile => absurd hprofile (by decide), by decide⟩

/-- The main profile: `0a10` is read as 0. -/
theorem not_configRight_main : configText (stereo 0) = str "0000" ∧
    hex (stereo 0).config.bytes = str "0a10" ∧
    ¬ ∀ info : MediaInfo, 1 ≤ info.audioChannels ∧ info.audioChannels ≤ 7 → ConfigRight info := by
  have htext : configText (stereo 0) = str "0000" := by decide +kernel
  have hbytes : hex (stereo 0).config.bytes = str "0a10" := by decide +kernel
  refine ⟨htext, hbytes, fun hright => ?_⟩
  have heq := (hright (stereo 0) (by decide)).text
  rw [htext, hbytes] at heq
  exact absurd heq (by decide)

end SimpleRtsp
