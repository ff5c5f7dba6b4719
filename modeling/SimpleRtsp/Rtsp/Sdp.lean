import SimpleRtsp.Lib.Numeral
import SimpleRtsp.Rtp.Packet
import SimpleRtsp.Rtsp.Parsing

/-!
# The description of a file

What `generateSDP` writes for a file, from what `check_media_info` found in it: the lines about the
session, with the address that it was given, a section for the video and one for the audio. For AAC
the section has the configuration of the decoder, which is made of the same three numbers as an ADTS
header.
-/

namespace SimpleRtsp

open CString

/-! ## AAC -/

def getAudioObjType (aactype : Int) : Nat :=
  if aactype = 0 ∨ aactype = 2 ∨ aactype = 3 then aactype.toNat + 1 else 2

def freqArr : List Int :=
  [96000, 88200, 64000, 48000, 44100, 32000, 24000, 22050, 16000, 12000, 11025, 8000, 7350]

/-- The index of the rate, which HE-AAC halves; 4 if it has none. -/
def getSampleRateIndex (freq aactype : Int) : Nat :=
  let freq := if aactype = 28 ∨ aactype = 4 then freq.tdiv 2 else freq
  (freqArr.findIdx? (freq = ·)).getD 4

def getChannelConfig (channels aactype : Int) : Int :=
  if aactype = 28 then channels.tdiv 2 else channels

/-- The seven bytes of `adts_header`. -/
def adtsHeader (dataLen : Nat) (aactype frequency channels : Int) : List UInt8 :=
  let audioObjectType := UInt8.ofNat (getAudioObjType aactype)
  let samplingFrequencyIndex := UInt8.ofNat (getSampleRateIndex frequency aactype)
  let channelConfig := UInt8.ofInt (getChannelConfig channels aactype)
  let adtsLen := dataLen + 7
  [0xFF, 0xF0 ||| 1,
    ((audioObjectType - 1) <<< 6) ||| ((samplingFrequencyIndex &&& 0x0F) <<< 2) |||
      ((channelConfig &&& 0x04) >>> 2),
    ((channelConfig &&& 0x03) <<< 6) ||| UInt8.ofNat ((adtsLen &&& 0x1800) >>> 11),
    UInt8.ofNat ((adtsLen &&& 0x7F8) >>> 3), UInt8.ofNat ((adtsLen &&& 0x7) <<< 5) ||| 0x1F, 0xFC]

/-! ## The file -/

inductive VideoType where
  | h264
  | h265

inductive AudioType where
  | aac
  | pcma

/-- `MediaInfo`. -/
structure MediaInfo where
  hasAudio : Bool
  hasVideo : Bool
  isVideoH26x : Bool
  videoType : VideoType
  audioType : AudioType
  isAudioAacPcma : Bool
  audioSampleRate : Int
  audioChannels : Int
  profile : Int

/-! ## The lines -/

/-- `%u` of an `int`. -/
def unsigned (n : Int) : Nat := (n % 0x100000000).toNat

def sdpLine (l : List UInt8) : List UInt8 := l ++ str "\r\n"

def sdpSession (time : Int) (localIp : List UInt8) : List (List UInt8) :=
  [str "v=0", str "o=- 9" ++ decimal time ++ str " 1 IN IP4 " ++ localIp,
    str "c=IN IP4 " ++ localIp, str "t=0 0", str "a=control:*"]

def sdpVideo (videoType : VideoType) : List (List UInt8) :=
  let payloadType := decimal RTP_PAYLOAD_TYPE_H26X.toNat
  let codec :=
    match videoType with
    | .h264 => str "H264"
    | .h265 => str "H265"
  [str "m=video 0 RTP/AVP " ++ payloadType,
    str "a=rtpmap:" ++ payloadType ++ str " " ++ codec ++ str "/90000",
    str "a=fmtp:" ++ payloadType ++ str " packetization-mode=1", str "a=control:track0"]

/-- The two bytes that `config` is filled with in hexadecimal. -/
def configBytes (info : MediaInfo) : List UInt8 :=
  let index := getSampleRateIndex info.audioSampleRate info.profile
  [UInt8.ofNat (getAudioObjType info.profile <<< 3) ||| UInt8.ofNat (index >>> 1),
    UInt8.ofNat (index <<< 7) ||| (UInt8.ofInt info.audioChannels <<< 3)]

/-- What is written of `config`: `%04u` of `atoi(config)`. -/
def configText (info : MediaInfo) : List UInt8 :=
  paddedDecimal 4 (unsigned (atoi (hex (configBytes info))))

def sdpAac (info : MediaInfo) : List (List UInt8) :=
  let payloadType := decimal RTP_PAYLOAD_TYPE_AAC.toNat
  [str "m=audio 0 RTP/AVP " ++ payloadType,
    str "a=rtpmap:" ++ payloadType ++ str " MPEG4-GENERIC/" ++
      decimal (unsigned info.audioSampleRate) ++ str "/" ++
      decimal (unsigned info.audioChannels),
    str "a=fmtp:" ++ payloadType ++
      str " streamtype=5;profile-level-id=1;mode=AAC-hbr;config=" ++ configText info ++
      str ";sizelength=13;indexlength=3;indexdeltalength=3",
    str "a=control:track1"]

def sdpPcma (info : MediaInfo) : List (List UInt8) :=
  let payloadType := decimal RTP_PAYLOAD_TYPE_PCMA.toNat
  [str "m=audio 0 RTP/AVP " ++ payloadType,
    str "a=rtpmap:" ++ payloadType ++ str " PCMA/" ++ decimal (unsigned info.audioSampleRate) ++
      str "/" ++ decimal (unsigned info.audioChannels),
    str "a=control:track1"]

def sdpAudio (info : MediaInfo) : List (List UInt8) :=
  match info.audioType with
  | .aac => sdpAac info
  | .pcma => sdpPcma info

def sdpLines (info : MediaInfo) (time : Int) (localIp : List UInt8) : List (List UInt8) :=
  sdpSession time localIp ++ (if info.hasVideo then sdpVideo info.videoType else []) ++
    if info.hasAudio then sdpAudio info else []

/-- `generateSDP` at this time; `info` is none if `check_media_info` fails. -/
def generateSdp (info : Option MediaInfo) (time : Int) (localIp : List UInt8) :
    Option (List UInt8) :=
  match info with
  | none => none
  | some info =>
    if info.hasVideo ∧ ! info.isVideoH26x then none
    else if info.hasAudio ∧ ! info.isAudioAacPcma then none
    else some ((sdpLines info time localIp).flatMap sdpLine)

/-! ## The text as lines -/

theorem not_mem_decimal (n : Int) : 0x0A ∉ decimal n := by
  rw [decimal, List.mem_append, not_or]
  constructor
  · split_ifs <;> simp
  · rw [← decimal_natCast]
    intro hmem
    exact absurd (isNumeral_decimal n.natAbs _ hmem) (by decide)

theorem lines_flatMap {ls : List (List UInt8)} (h : ∀ l ∈ ls, 0x0A ∉ l) :
    lines (ls.flatMap sdpLine) = ls.map (· ++ [0x0D]) := by
  induction ls with
  | nil => rfl
  | cons l ls ih =>
    rw [List.forall_mem_cons] at h
    have hline : 0x0A ∉ l ++ [0x0D] := by simpa using h.1
    have htext : sdpLine l ++ ls.flatMap sdpLine = (l ++ [0x0D]) ++ 0x0A :: ls.flatMap sdpLine := by
      rw [sdpLine, List.append_assoc, List.append_assoc]
      rfl
    rw [List.flatMap_cons, htext, lines_append_cons hline, ih h.2, List.map_cons]

def NoNewline (ls : List (List UInt8)) : Prop := ∀ l ∈ ls, 0x0A ∉ l

theorem noNewline_sdpSession {localIp : List UInt8} (hip : 0x0A ∉ localIp) (time : Int) :
    NoNewline (sdpSession time localIp) := by
  have htime := not_mem_decimal time
  simp only [NoNewline, sdpSession, List.forall_mem_cons, List.mem_append, not_or]
  and_intros
  all_goals first | assumption | decide

theorem noNewline_sdpVideo (videoType : VideoType) : NoNewline (sdpVideo videoType) := by
  cases videoType
  all_goals
    simp only [NoNewline, sdpVideo, List.forall_mem_cons, List.mem_append, not_or]
    and_intros
    all_goals decide

theorem noNewline_sdpAudio (info : MediaInfo) : NoNewline (sdpAudio info) := by
  have hconfig : 0x0A ∉ configText info := by
    intro hmem
    exact absurd (isNumeral_paddedDecimal _ _ _ hmem) (by decide)
  have hrate := not_mem_decimal (unsigned info.audioSampleRate)
  have hchannels := not_mem_decimal (unsigned info.audioChannels)
  rw [sdpAudio]
  cases info.audioType
  all_goals
    simp only [NoNewline, sdpAac, sdpPcma, List.forall_mem_cons, List.mem_append, not_or]
    and_intros
    all_goals first | assumption | decide

theorem noNewline_sdpLines (info : MediaInfo) {localIp : List UInt8} (hip : 0x0A ∉ localIp)
    (time : Int) : NoNewline (sdpLines info time localIp) := by
  intro l hl
  rw [sdpLines, List.mem_append, List.mem_append] at hl
  rcases hl with (hl | hl) | hl
  · exact noNewline_sdpSession hip time l hl
  · split_ifs at hl
    · exact noNewline_sdpVideo info.videoType l hl
    · exact absurd hl List.not_mem_nil
  · split_ifs at hl
    · exact noNewline_sdpAudio info l hl
    · exact absurd hl List.not_mem_nil

theorem lines_generateSdp {info : MediaInfo} {time : Int} {localIp sdp : List UInt8}
    (h : generateSdp (some info) time localIp = some sdp) (hip : 0x0A ∉ localIp) :
    lines sdp = (sdpLines info time localIp).map (· ++ [0x0D]) := by
  rw [generateSdp] at h
  split_ifs at h
  obtain rfl := Option.some.inj h
  exact lines_flatMap (noNewline_sdpLines info hip time)

end SimpleRtsp
