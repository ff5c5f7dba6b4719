import SimpleRtsp.Lib.MessageStream
import SimpleRtsp.Rtsp.AacConfig
import SimpleRtsp.Rtsp.Parsing
import SimpleRtsp.Rtsp.Sdp
import SimpleRtsp.Session.Stream

/-!
# What a description says and what is played

`check_media_info` looks at every stream of a file and keeps what it saw last; `creatMedia` plays
the streams that `av_find_best_stream` chooses. A receiver reads tracks from the description
(`readSdp`), each with a payload type, an encoding and a clock, and `description_iff` says when
there is a description, that its tracks are those that were written, and for which files they are
what is played.
-/

namespace SimpleRtsp

open CString
open StreamState (payloadType)

/-! ## The streams of a file -/

/-- `enum AVMediaType`. -/
inductive CodecType where
  | video
  | audio
  | other
  deriving DecidableEq

/-- `enum AVCodecID`, as far as it is looked at. -/
inductive CodecId where
  | h264
  | h265
  | aac
  | pcmAlaw
  | other
  deriving DecidableEq

/-- `AVStream` and its `AVCodecParameters`. -/
structure AVStream where
  codecType : CodecType
  codecId : CodecId
  sampleRate : Int
  channels : Int
  profile : Int

/-- What `avformat_open_input` and `avformat_find_stream_info` find. `avFindBestStream` has some
stream of a type, or a negative number if there is none. -/
structure FormatContext where
  streams : List AVStream
  avFindBestStream : CodecType → Int
  found : ∀ type, (∃ s ∈ streams, s.codecType = type) → ∃ s, 0 ≤ avFindBestStream type ∧
    streams[(avFindBestStream type).toNat]? = some s ∧ s.codecType = type
  missing : ∀ type, (∀ s ∈ streams, s.codecType ≠ type) → avFindBestStream type < 0

/-! ## `check_media_info` -/

/-- A turn of the loop over the streams. -/
def checkStream (info : MediaInfo) (stream : AVStream) : MediaInfo :=
  match stream.codecType with
  | .video =>
    let info := { info with hasVideo := true }
    if stream.codecId = .h264 ∨ stream.codecId = .h265 then
      { info with
        isVideoH26x := true
        videoType := if stream.codecId = .h264 then .h264 else .h265 }
    else info
  | .audio =>
    let info := { info with hasAudio := true }
    if stream.codecId = .aac ∨ stream.codecId = .pcmAlaw then
      { info with
        isAudioAacPcma := true
        audioSampleRate := stream.sampleRate
        audioChannels := stream.channels
        profile := stream.profile
        audioType := if stream.codecId = .aac then .aac else .pcma }
    else info
  | .other => info

/-- `check_media_info`; `uninit` is what `info` holds before. -/
def checkMediaInfo (uninit : MediaInfo) (streams : List AVStream) : MediaInfo :=
  streams.foldl checkStream
    { uninit with
      hasAudio := false
      hasVideo := false
      isVideoH26x := false
      isAudioAacPcma := false
      audioSampleRate := 0
      audioChannels := 0 }

/-! ## `creatMedia` -/

namespace FormatContext

variable (file : FormatContext)

def played (type : CodecType) : Option AVStream :=
  if 0 ≤ file.avFindBestStream type then file.streams[(file.avFindBestStream type).toNat]? else none

def getVideoType : VideoE :=
  match file.played .video with
  | none => .none
  | some s => if s.codecId = .h264 then .h264 else if s.codecId = .h265 then .h265 else .none

def getAudioType : AudioE :=
  match file.played .audio with
  | none => .none
  | some s => if s.codecId = .aac then .aac else if s.codecId = .pcmAlaw then .pcma else .none

end FormatContext

/-! ## A receiver -/

/-- What a receiver knows of a track. -/
structure Track where
  media : List UInt8
  payloadType : Nat
  encoding : List UInt8
  clockRate : Nat
  channels : Option Nat
  fmtp : Option (List UInt8)
  control : Option (List UInt8)
  deriving DecidableEq

/-- What is in front of the first `c`, and what is behind it. -/
def cut (c : UInt8) (s : List UInt8) : List UInt8 × List UInt8 :=
  (s.takeWhile (· ≠ c), (s.dropWhile (· ≠ c)).tail)

/-- The value of an attribute. -/
def attributeOf (key : String) (attributes : List (List UInt8)) : Option (List UInt8) :=
  attributes.findSome? fun l =>
    if (str key).isPrefixOf l then some (l.drop (str key).length) else none

/-- The track of an `m=` line and the attributes behind it. -/
def readTrack (m : List UInt8) (attributes : List (List UInt8)) : Option Track :=
  (attributeOf "a=rtpmap:" attributes).bind fun rtpmap =>
    let media := cut 0x20 (m.drop 2)
    let format := (cut 0x20 (cut 0x20 media.2).2).2
    let encoding := cut 0x2F (cut 0x20 rtpmap).2
    let clockRate := cut 0x2F encoding.2
    if (cut 0x20 rtpmap).1 = format then
      some
        { media := media.1
          payloadType := numeral format
          encoding := encoding.1
          clockRate := numeral clockRate.1
          channels := if clockRate.2 = [] then none else some (numeral clockRate.2)
          fmtp := (attributeOf "a=fmtp:" attributes).map fun l => (cut 0x20 l).2
          control := attributeOf "a=control:" attributes }
    else none

/-- A line, with the attributes and the tracks behind it. -/
def collect (l : List UInt8) (behind : List (List UInt8) × List Track) :
    List (List UInt8) × List Track :=
  if (str "m=").isPrefixOf l then ([], (readTrack l behind.1).toList ++ behind.2)
  else (l :: behind.1, behind.2)

def readSdp (sdp : List UInt8) : List Track :=
  (((lines sdp).map MessageStream.chomp).foldr collect ([], [])).2

/-- What a receiver has to expect on a track. -/
structure Flow (ε : Type) where
  payloadType : Nat
  encoding : ε
  clockRate : Nat
  deriving DecidableEq

def encodingVideo (encoding : List UInt8) : VideoE :=
  if encoding = str "H264" then .h264 else if encoding = str "H265" then .h265 else .none

def encodingAudio (encoding : List UInt8) : AudioE :=
  if encoding = str "MPEG4-GENERIC" then .aac else if encoding = str "PCMA" then .pcma else .none

def toldVideo (tracks : List Track) : Option (Flow VideoE) :=
  (tracks.find? fun t => t.media = str "video").map fun t =>
    ⟨t.payloadType, encodingVideo t.encoding, t.clockRate⟩

/-- The flow and the number of channels. -/
def toldAudio (tracks : List Track) : Option (Flow AudioE × Option Nat) :=
  (tracks.find? fun t => t.media = str "audio").map fun t =>
    (⟨t.payloadType, encodingAudio t.encoding, t.clockRate⟩, t.channels)

namespace FormatContext

variable (file : FormatContext)

def sentVideo : Option (Flow VideoE) :=
  (file.played .video).map fun _ =>
    ⟨(payloadType file.getAudioType .video).toNat, file.getVideoType, 90000⟩

/-- The audio as it is sent; the rate is an argument of type `uint32_t`. -/
def sentAudio : Option (Flow AudioE × Option Nat) :=
  (file.played .audio).map fun s =>
    (⟨(payloadType file.getAudioType .audio).toNat, file.getAudioType,
      (UInt32.ofInt s.sampleRate).toNat⟩, some (unsigned s.channels))

end FormatContext

/-! ## What was written -/

namespace MediaInfo

variable (info : MediaInfo)

def videoTrack : Track where
  media := str "video"
  payloadType := 96
  encoding :=
    match info.videoType with
    | .h264 => str "H264"
    | .h265 => str "H265"
  clockRate := 90000
  channels := none
  fmtp := some (str "packetization-mode=1")
  control := some (str "track0")

def audioTrack : Track :=
  match info.audioType with
  | .aac =>
    { media := str "audio"
      payloadType := 97
      encoding := str "MPEG4-GENERIC"
      clockRate := unsigned info.audioSampleRate
      channels := some (unsigned info.audioChannels)
      fmtp := some (str "streamtype=5;profile-level-id=1;mode=AAC-hbr;config=" ++
        configText info ++ str ";sizelength=13;indexlength=3;indexdeltalength=3")
      control := some (str "track1") }
  | .pcma =>
    { media := str "audio"
      payloadType := 8
      encoding := str "PCMA"
      clockRate := unsigned info.audioSampleRate
      channels := some (unsigned info.audioChannels)
      fmtp := none
      control := some (str "track1") }

def tracks : List Track :=
  (if info.hasVideo then [info.videoTrack] else []) ++
    if info.hasAudio then [info.audioTrack] else []

end MediaInfo

theorem cut_append {c : UInt8} {p : List UInt8} (h : c ∉ p) (s : List UInt8) :
    cut c (p ++ c :: s) = (p, s) := by
  have hdrop : (p ++ c :: s).dropWhile (· ≠ c) = c :: s := by
    rw [List.dropWhile_append_of_pos]
    · simp
    · intro b hb
      simpa using fun hbc : b = c => h (hbc ▸ hb)
  rw [cut, takeWhile_append_cons h, hdrop]
  rfl

theorem slash_not_mem_decimal (n : Nat) : 0x2F ∉ decimal n := fun hmem =>
  absurd (isNumeral_decimal n _ hmem) (by decide)

theorem attributeOf_cons_eq (key : String) (v : List UInt8) (attributes : List (List UInt8)) :
    attributeOf key ((str key ++ v) :: attributes) = some v := by
  have hkey : (str key).isPrefixOf (str key ++ v) :=
    List.isPrefixOf_iff_prefix.mpr (List.prefix_append _ _)
  rw [attributeOf, List.findSome?_cons, if_pos hkey, List.drop_left]

theorem attributeOf_cons_ne {key : String} {l : List UInt8} (h : (str key).isPrefixOf l = false)
    (attributes : List (List UInt8)) : attributeOf key (l :: attributes) =
      attributeOf key attributes := by
  rw [attributeOf, List.findSome?_cons, h]
  rfl

theorem cut_rtpmap {payloadType encoding : List UInt8} (hpayload : 0x20 ∉ payloadType)
    (hencoding : 0x2F ∉ encoding) (rate channels : Nat) :
    let rtpmap := payloadType ++ 0x20 :: (encoding ++ 0x2F :: (decimal rate ++ 0x2F ::
      decimal channels))
    (cut 0x20 rtpmap).1 = payloadType ∧ (cut 0x2F (cut 0x20 rtpmap).2).1 = encoding ∧
      cut 0x2F (cut 0x2F (cut 0x20 rtpmap).2).2 = (decimal rate, decimal channels) := by
  dsimp only
  rw [cut_append hpayload, cut_append hencoding, cut_append (slash_not_mem_decimal rate)]
  exact ⟨rfl, rfl, rfl⟩

theorem readTrack_audio {payloadType encoding : List UInt8} (hpayload : 0x20 ∉ payloadType)
    (hencoding : 0x2F ∉ encoding) (rate channels : Nat) (rest : List (List UInt8)) :
    readTrack (str "m=audio 0 RTP/AVP " ++ payloadType)
        ((str "a=rtpmap:" ++ (payloadType ++ 0x20 :: (encoding ++ 0x2F :: (decimal rate ++ 0x2F ::
          decimal channels)))) :: rest) =
      some
        { media := str "audio"
          payloadType := numeral payloadType
          encoding := encoding
          clockRate := rate
          channels := some channels
          fmtp := (attributeOf "a=fmtp:" rest).map fun l => (cut 0x20 l).2
          control := attributeOf "a=control:" rest } := by
  have hmedia : (cut 0x20 ((str "m=audio 0 RTP/AVP " ++ payloadType).drop 2)).1 = str "audio" := rfl
  have hformat : (cut 0x20 (cut 0x20 (cut 0x20
      ((str "m=audio 0 RTP/AVP " ++ payloadType).drop 2)).2).2).2 = payloadType := rfl
  obtain ⟨hmap, henc, hrate⟩ := cut_rtpmap hpayload hencoding rate channels
  rw [readTrack, attributeOf_cons_eq, Option.bind_some]
  dsimp only at hmap henc hrate ⊢
  rw [hmedia, hformat, if_pos hmap, henc, hrate, if_neg (decimal_ne_nil channels), numeral_decimal,
    numeral_decimal, attributeOf_cons_ne rfl, attributeOf_cons_ne rfl]

theorem sdpAac_eq (info : MediaInfo) : sdpAac info =
    [str "m=audio 0 RTP/AVP " ++ str "97",
      str "a=rtpmap:" ++ (str "97" ++ 0x20 :: (str "MPEG4-GENERIC" ++ 0x2F ::
        (decimal (unsigned info.audioSampleRate) ++ 0x2F ::
          decimal (unsigned info.audioChannels)))),
      str "a=fmtp:" ++ (str "97" ++ 0x20 ::
        (str "streamtype=5;profile-level-id=1;mode=AAC-hbr;config=" ++ configText info ++
          str ";sizelength=13;indexlength=3;indexdeltalength=3")),
      str "a=control:track1"] := by
  have hpayload : decimal RTP_PAYLOAD_TYPE_AAC.toNat = str "97" := by decide
  rw [sdpAac, hpayload]
  simp only [List.append_assoc]
  rfl

theorem sdpPcma_eq (info : MediaInfo) : sdpPcma info =
    [str "m=audio 0 RTP/AVP " ++ str "8",
      str "a=rtpmap:" ++ (str "8" ++ 0x20 :: (str "PCMA" ++ 0x2F ::
        (decimal (unsigned info.audioSampleRate) ++ 0x2F ::
          decimal (unsigned info.audioChannels)))),
      str "a=control:track1"] := by
  have hpayload : decimal RTP_PAYLOAD_TYPE_PCMA.toNat = str "8" := by decide
  rw [sdpPcma, hpayload]
  simp only [List.append_assoc]
  rfl

/-! ## The lines as tracks -/

/-- The lines begin with an `m=` line and go on with attributes that make this track. -/
def IsSection (ls : List (List UInt8)) (track : Track) : Prop :=
  ∃ m attributes, ls = m :: attributes ∧ (str "m=").isPrefixOf m = true ∧
    (∀ l ∈ attributes, (str "m=").isPrefixOf l = false) ∧ readTrack m attributes = some track

theorem isSection_video (info : MediaInfo) :
    IsSection (sdpVideo info.videoType) info.videoTrack := by
  rw [MediaInfo.videoTrack]
  cases info.videoType <;> exact ⟨_, _, rfl, rfl, by decide, by decide +kernel⟩

theorem isSection_audio (info : MediaInfo) : IsSection (sdpAudio info) info.audioTrack := by
  rw [sdpAudio, MediaInfo.audioTrack]
  cases info.audioType with
  | aac =>
    rw [sdpAac_eq]
    refine ⟨_, _, rfl, rfl, ?_, ?_⟩
    · simp only [List.forall_mem_cons]
      exact ⟨rfl, rfl, rfl, fun l hl => absurd hl List.not_mem_nil⟩
    · rw [readTrack_audio (by decide) (by decide), attributeOf_cons_eq, attributeOf_cons_ne rfl,
        Option.map_some, cut_append (by decide)]
      rfl
  | pcma =>
    rw [sdpPcma_eq]
    refine ⟨_, _, rfl, rfl, ?_, ?_⟩
    · simp only [List.forall_mem_cons]
      exact ⟨rfl, rfl, fun l hl => absurd hl List.not_mem_nil⟩
    · rw [readTrack_audio (by decide) (by decide)]
      rfl

theorem foldr_attributes {attributes : List (List UInt8)}
    (h : ∀ l ∈ attributes, (str "m=").isPrefixOf l = false)
    (behind : List (List UInt8) × List Track) :
    attributes.foldr collect behind = (attributes ++ behind.1, behind.2) := by
  induction attributes with
  | nil => rfl
  | cons l attributes ih =>
    obtain ⟨hl, hrest⟩ := List.forall_mem_cons.mp h
    rw [List.foldr_cons, ih hrest, collect, hl]
    rfl

theorem IsSection.foldr {ls : List (List UInt8)} {track : Track} (h : IsSection ls track)
    (tracks : List Track) : ls.foldr collect ([], tracks) = ([], track :: tracks) := by
  obtain ⟨m, attributes, rfl, hm, hattributes, hread⟩ := h
  rw [List.foldr_cons, foldr_attributes hattributes, collect, if_pos hm]
  dsimp only
  rw [List.append_nil, hread]
  rfl

/-- **Round trip.** A receiver reads the tracks that were written. -/
theorem readSdp_eq {info : MediaInfo} {time : Int} {localIp sdp : List UInt8}
    (h : generateSdp (some info) time localIp = some sdp) (hip : 0x0A ∉ localIp) :
    readSdp sdp = info.tracks := by
  have hlines : (lines sdp).map MessageStream.chomp = sdpLines info time localIp := by
    rw [lines_generateSdp h hip, List.map_map]
    have hchomp : MessageStream.chomp ∘ (· ++ [0x0D]) = id := by
      funext l
      exact MessageStream.chomp_append_cr l
    rw [hchomp, List.map_id]
  have haudio : (if info.hasAudio then sdpAudio info else []).foldr collect ([], []) =
      ([], if info.hasAudio then [info.audioTrack] else []) := by
    split_ifs
    · exact (isSection_audio info).foldr []
    · rfl
  have hvideo : ∀ tracks, (if info.hasVideo then sdpVideo info.videoType else []).foldr collect
      ([], tracks) = ([], (if info.hasVideo then [info.videoTrack] else []) ++ tracks) := by
    intro tracks
    split_ifs
    · exact (isSection_video info).foldr tracks
    · rfl
  have hsession : ∀ l ∈ sdpSession time localIp, (str "m=").isPrefixOf l = false := by
    rw [sdpSession]
    simp only [List.forall_mem_cons]
    exact ⟨rfl, rfl, rfl, rfl, rfl, fun l hl => absurd hl List.not_mem_nil⟩
  rw [readSdp, hlines, sdpLines, List.foldr_append, List.foldr_append, haudio, hvideo,
    foldr_attributes hsession]
  rfl

/-! ## The streams that were looked at -/

namespace AVStream

/-- The encoding of a stream that can be described. -/
def video (s : AVStream) : Option VideoType :=
  if s.codecType = .video then
    if s.codecId = .h264 then some .h264 else if s.codecId = .h265 then some .h265 else none
  else none

def audio (s : AVStream) : Option AudioType :=
  if s.codecType = .audio then
    if s.codecId = .aac then some .aac else if s.codecId = .pcmAlaw then some .pcma else none
  else none

/-- The stream with its encoding. -/
def audioStream (s : AVStream) : Option (AudioType × AVStream) := s.audio.map (·, s)

end AVStream

/-- The last stream that can be described. -/
def lastVideo (streams : List AVStream) : Option VideoType :=
  streams.reverse.findSome? AVStream.video

def lastAudio (streams : List AVStream) : Option (AudioType × AVStream) :=
  streams.reverse.findSome? AVStream.audioStream

theorem lastVideo_concat (streams : List AVStream) (s : AVStream) :
    lastVideo (streams ++ [s]) = s.video.or (lastVideo streams) := by
  rw [lastVideo, List.reverse_concat, List.findSome?_cons]
  cases s.video <;> rfl

theorem lastAudio_concat (streams : List AVStream) (s : AVStream) :
    lastAudio (streams ++ [s]) = s.audioStream.or (lastAudio streams) := by
  rw [lastAudio, List.reverse_concat, List.findSome?_cons]
  cases s.audioStream <;> rfl

/-- What is described of the audio. -/
structure MediaInfo.HasAudioOf (info : MediaInfo) (a : AudioType × AVStream) : Prop where
  audioType : info.audioType = a.1
  sampleRate : info.audioSampleRate = a.2.sampleRate
  channels : info.audioChannels = a.2.channels
  profile : info.profile = a.2.profile

theorem checkStream_video (info : MediaInfo) (s : AVStream) :
    (checkStream info s).hasVideo = (info.hasVideo || s.codecType = .video) ∧
      (checkStream info s).isVideoH26x = (info.isVideoH26x || s.video.isSome) ∧
      (checkStream info s).videoType = s.video.getD info.videoType := by
  obtain ⟨codecType, codecId, sampleRate, channels, profile⟩ := s
  rw [AVStream.video, checkStream]
  cases codecType <;> cases codecId <;> simp

theorem checkStream_audio (info : MediaInfo) (s : AVStream) :
    (checkStream info s).hasAudio = (info.hasAudio || s.codecType = .audio) ∧
      (checkStream info s).isAudioAacPcma = (info.isAudioAacPcma || s.audioStream.isSome) ∧
      (∀ a ∈ s.audioStream, (checkStream info s).HasAudioOf a) ∧
      (s.audioStream = none → ∀ a, info.HasAudioOf a → (checkStream info s).HasAudioOf a) := by
  obtain ⟨codecType, codecId, sampleRate, channels, profile⟩ := s
  rw [AVStream.audioStream, AVStream.audio, checkStream]
  cases codecType <;> cases codecId <;> simp
  all_goals first
    | exact fun _ _ h => ⟨h.audioType, h.sampleRate, h.channels, h.profile⟩
    | exact ⟨rfl, rfl, rfl, rfl⟩

/-- What `check_media_info` has found in the streams. -/
structure Checked (streams : List AVStream) (info : MediaInfo) : Prop where
  hasVideo : info.hasVideo = streams.any fun s => s.codecType = .video
  hasAudio : info.hasAudio = streams.any fun s => s.codecType = .audio
  isVideoH26x : info.isVideoH26x = (lastVideo streams).isSome
  isAudioAacPcma : info.isAudioAacPcma = (lastAudio streams).isSome
  video : ∀ videoType ∈ lastVideo streams, info.videoType = videoType
  audio : ∀ a ∈ lastAudio streams, info.HasAudioOf a

theorem Checked.step {streams : List AVStream} {info : MediaInfo} (h : Checked streams info)
    (s : AVStream) : Checked (streams ++ [s]) (checkStream info s) := by
  obtain ⟨hvideo, hh26x, htype⟩ := checkStream_video info s
  obtain ⟨haudio, haac, hnew, hold⟩ := checkStream_audio info s
  constructor
  · rw [hvideo, h.hasVideo, List.any_append, List.any_cons, List.any_nil, Bool.or_false]
  · rw [haudio, h.hasAudio, List.any_append, List.any_cons, List.any_nil, Bool.or_false]
  · rw [hh26x, h.isVideoH26x, lastVideo_concat, Option.isSome_or, Bool.or_comm]
  · rw [haac, h.isAudioAacPcma, lastAudio_concat, Option.isSome_or, Bool.or_comm]
  · rw [htype, lastVideo_concat]
    cases s.video with
    | none => exact h.video
    | some videoType => exact fun _ hmem => Option.some.inj hmem
  · rw [lastAudio_concat]
    cases hs : s.audioStream with
    | none => exact fun a ha => hold hs a (h.audio a ha)
    | some a =>
      intro a' ha'
      obtain rfl := Option.some.inj ha'
      exact hnew _ hs

theorem checked_foldl {streams : List AVStream} {info : MediaInfo} (h : Checked streams info)
    (rest : List AVStream) : Checked (streams ++ rest) (rest.foldl checkStream info) := by
  induction rest generalizing streams info with
  | nil => rwa [List.append_nil]
  | cons s rest ih =>
    have hrest := ih (h.step s)
    rwa [List.append_assoc] at hrest

theorem checked_checkMediaInfo (uninit : MediaInfo) (streams : List AVStream) :
    Checked streams (checkMediaInfo uninit streams) := by
  refine @checked_foldl [] _ ⟨rfl, rfl, rfl, rfl, ?_, ?_⟩ streams
  · exact fun _ hmem => absurd hmem (Option.not_mem_none _)
  · exact fun _ hmem => absurd hmem (Option.not_mem_none _)

/-! ## What is played -/

namespace FormatContext

variable (file : FormatContext)

/-- The type has no stream, or one that can be described. -/
def Described : Prop :=
  ((∃ s ∈ file.streams, s.codecType = .video) → ∃ s ∈ file.streams, s.video ≠ none) ∧
    ((∃ s ∈ file.streams, s.codecType = .audio) → ∃ s ∈ file.streams, s.audio ≠ none)

/-- The streams that are played are like the last ones that can be described. -/
structure PlaysLast : Prop where
  video : ∀ s ∈ file.played .video, s.video ≠ none ∧ s.video = lastVideo file.streams
  audio : ∀ s ∈ file.played .audio, ∃ a ∈ lastAudio file.streams, s.audio = some a.1 ∧
    unsigned s.sampleRate = unsigned a.2.sampleRate ∧ unsigned s.channels = unsigned a.2.channels

variable {file}

theorem played_eq_some {type : CodecType} (h : ∃ s ∈ file.streams, s.codecType = type) :
    ∃ s, file.played type = some s ∧ s.codecType = type := by
  obtain ⟨s, hnonneg, hs, htype⟩ := file.found type h
  exact ⟨s, by rw [played, if_pos hnonneg, hs], htype⟩

theorem played_eq_none {type : CodecType} (h : ¬ ∃ s ∈ file.streams, s.codecType = type) :
    file.played type = none := by
  have hnegative := file.missing type fun s hs htype => h ⟨s, hs, htype⟩
  rw [played, if_neg (by omega)]

end FormatContext

theorem isSome_lastVideo (streams : List AVStream) :
    (lastVideo streams).isSome ↔ ∃ s ∈ streams, s.video ≠ none := by
  rw [lastVideo, List.findSome?_isSome_iff]
  simp [Option.isSome_iff_ne_none]

theorem isSome_lastAudio (streams : List AVStream) :
    (lastAudio streams).isSome ↔ ∃ s ∈ streams, s.audio ≠ none := by
  rw [lastAudio, List.findSome?_isSome_iff]
  simp [Option.isSome_iff_ne_none, AVStream.audioStream]

theorem generateSdp_isSome (file : FormatContext) (uninit : MediaInfo) (time : Int)
    (localIp : List UInt8) :
    (generateSdp (some (checkMediaInfo uninit file.streams)) time localIp).isSome ↔
      file.Described := by
  obtain ⟨hvideo, haudio, hh26x, haac, -, -⟩ := checked_checkMediaInfo uninit file.streams
  have hany : ∀ type, (file.streams.any fun s => s.codecType = type) = true ↔
      ∃ s ∈ file.streams, s.codecType = type := by
    intro type
    simp
  rw [FormatContext.Described, ← hany, ← hany, ← isSome_lastVideo, ← isSome_lastAudio, ← hvideo,
    ← haudio, ← hh26x, ← haac, generateSdp]
  cases (checkMediaInfo uninit file.streams).hasVideo <;>
    cases (checkMediaInfo uninit file.streams).isVideoH26x <;>
    cases (checkMediaInfo uninit file.streams).hasAudio <;>
    cases (checkMediaInfo uninit file.streams).isAudioAacPcma <;> simp

def VideoType.toVideoE : Option VideoType → VideoE
  | none => .none
  | some .h264 => .h264
  | some .h265 => .h265

def AudioType.toAudioE : Option AudioType → AudioE
  | none => .none
  | some .aac => .aac
  | some .pcma => .pcma

theorem toVideoE_inj {v v' : Option VideoType} (h : VideoType.toVideoE v = VideoType.toVideoE v') :
    v = v' := by
  obtain _ | _ | _ := v <;> obtain _ | _ | _ := v' <;> first | rfl | cases h

theorem toAudioE_inj {a a' : Option AudioType} (h : AudioType.toAudioE a = AudioType.toAudioE a') :
    a = a' := by
  obtain _ | _ | _ := a <;> obtain _ | _ | _ := a' <;> first | rfl | cases h

section

variable {file : FormatContext}

theorem getVideoType_eq {s : AVStream} (h : file.played .video = some s)
    (htype : s.codecType = .video) : file.getVideoType = VideoType.toVideoE s.video := by
  rw [FormatContext.getVideoType, h, AVStream.video, if_pos htype]
  dsimp only
  split_ifs <;> rfl

theorem getAudioType_eq {s : AVStream} (h : file.played .audio = some s)
    (htype : s.codecType = .audio) : file.getAudioType = AudioType.toAudioE s.audio := by
  rw [FormatContext.getAudioType, h, AVStream.audio, if_pos htype]
  dsimp only
  split_ifs <;> rfl

theorem toldVideo_tracks (info : MediaInfo) : toldVideo info.tracks =
    if info.hasVideo then some ⟨96, VideoType.toVideoE (some info.videoType), 90000⟩ else none := by
  rw [toldVideo, MediaInfo.tracks, MediaInfo.videoTrack, MediaInfo.audioTrack]
  cases info.hasVideo <;> cases info.videoType <;> cases info.hasAudio <;> cases info.audioType <;>
    rfl

theorem toldAudio_tracks (info : MediaInfo) : toldAudio info.tracks =
    if info.hasAudio then
      some (⟨(audioPayloadType (AudioType.toAudioE (some info.audioType))).toNat,
        AudioType.toAudioE (some info.audioType), unsigned info.audioSampleRate⟩,
        some (unsigned info.audioChannels))
    else none := by
  rw [toldAudio, MediaInfo.tracks, MediaInfo.videoTrack, MediaInfo.audioTrack]
  cases info.hasVideo <;> cases info.videoType <;> cases info.hasAudio <;> cases info.audioType <;>
    rfl

theorem toldVideo_iff (uninit : MediaInfo) (h : file.Described) :
    toldVideo (checkMediaInfo uninit file.streams).tracks = file.sentVideo ↔
      ∀ s ∈ file.played .video, s.video ≠ none ∧ s.video = lastVideo file.streams := by
  obtain ⟨hvideo, -, -, -, hlast, -⟩ := checked_checkMediaInfo uninit file.streams
  rw [toldVideo_tracks, hvideo, FormatContext.sentVideo]
  by_cases hexists : ∃ s ∈ file.streams, s.codecType = .video
  · have hany : (file.streams.any fun s => s.codecType = .video) = true := by simpa using hexists
    obtain ⟨s, hplayed, htype⟩ := FormatContext.played_eq_some hexists
    obtain ⟨videoType, hsome⟩ := Option.isSome_iff_exists.mp
      ((isSome_lastVideo file.streams).mpr (h.1 hexists))
    rw [if_pos hany, hlast _ hsome, hplayed, Option.map_some, getVideoType_eq hplayed htype, hsome]
    constructor
    · intro heq s' hs'
      obtain rfl := Option.some.inj hs'
      have hencoding := toVideoE_inj (congrArg Flow.encoding (Option.some.inj heq))
      rw [← hencoding]
      exact ⟨Option.some_ne_none _, rfl⟩
    · intro hall
      rw [(hall s rfl).2]
      rfl
  · have hany : ¬ (file.streams.any fun s => s.codecType = .video) = true := by simpa using hexists
    rw [if_neg hany, FormatContext.played_eq_none hexists]
    simp

theorem toldAudio_iff (uninit : MediaInfo) (h : file.Described) :
    toldAudio (checkMediaInfo uninit file.streams).tracks = file.sentAudio ↔
      ∀ s ∈ file.played .audio, ∃ a ∈ lastAudio file.streams, s.audio = some a.1 ∧
        unsigned s.sampleRate = unsigned a.2.sampleRate ∧
        unsigned s.channels = unsigned a.2.channels := by
  obtain ⟨-, haudio, -, -, -, hlast⟩ := checked_checkMediaInfo uninit file.streams
  rw [toldAudio_tracks, haudio, FormatContext.sentAudio]
  by_cases hexists : ∃ s ∈ file.streams, s.codecType = .audio
  · have hany : (file.streams.any fun s => s.codecType = .audio) = true := by simpa using hexists
    obtain ⟨s, hplayed, htype⟩ := FormatContext.played_eq_some hexists
    obtain ⟨a, hsome⟩ := Option.isSome_iff_exists.mp
      ((isSome_lastAudio file.streams).mpr (h.2 hexists))
    have hof := hlast a hsome
    have hrate : (UInt32.ofInt s.sampleRate).toNat = unsigned s.sampleRate := by
      rw [UInt32.ofInt, UInt32.toNat_ofNat', unsigned]
      omega
    rw [if_pos hany, hof.audioType, hof.sampleRate, hof.channels, hplayed, Option.map_some,
      getAudioType_eq hplayed htype, hrate, hsome]
    constructor
    · intro heq s' hs'
      obtain rfl := Option.some.inj hs'
      have hflow := Option.some.inj heq
      have hencoding := toAudioE_inj (congrArg (fun f => f.1.encoding) hflow)
      have hclock := congrArg (fun f => f.1.clockRate) hflow
      have hchannels := Option.some.inj (congrArg Prod.snd hflow)
      exact ⟨a, rfl, hencoding.symm, hclock.symm, hchannels.symm⟩
    · intro hall
      obtain ⟨a', ha', hencoding, hclock, hchannels⟩ := hall s rfl
      obtain rfl := Option.some.inj ha'
      rw [hencoding, hclock, hchannels]
      rfl
  · have hany : ¬ (file.streams.any fun s => s.codecType = .audio) = true := by simpa using hexists
    rw [if_neg hany, FormatContext.played_eq_none hexists]
    simp

end

/-- **Described and played.** A file has a description if every type of stream in it has one that
can be described; a receiver reads the tracks that were written, and they are as what is played if
and only if the streams that are played are like the last ones that can be described. -/
theorem description_iff (file : FormatContext) (uninit : MediaInfo) (time : Int)
    {localIp : List UInt8} (hip : 0x0A ∉ localIp) :
    ((generateSdp (some (checkMediaInfo uninit file.streams)) time localIp).isSome ↔
      file.Described) ∧
    ∀ sdp ∈ generateSdp (some (checkMediaInfo uninit file.streams)) time localIp,
      readSdp sdp = (checkMediaInfo uninit file.streams).tracks ∧
      ((toldVideo (readSdp sdp) = file.sentVideo ∧ toldAudio (readSdp sdp) = file.sentAudio) ↔
        file.PlaysLast) := by
  have hdescribed := generateSdp_isSome file uninit time localIp
  refine ⟨hdescribed, fun sdp hsdp => ?_⟩
  have hread := readSdp_eq hsdp hip
  have h : file.Described := hdescribed.mp (by rw [Option.mem_def.mp hsdp]; rfl)
  rw [hread, toldVideo_iff uninit h, toldAudio_iff uninit h]
  exact ⟨rfl, fun hboth => ⟨hboth.1, hboth.2⟩, fun hlast => ⟨hlast.video, hlast.audio⟩⟩

/-- A film with a second audio track; the first is the better one. -/
def twoAudio : FormatContext where
  streams := [⟨.video, .h264, 0, 0, 100⟩, ⟨.audio, .aac, 48000, 2, 1⟩,
    ⟨.audio, .pcmAlaw, 8000, 1, 0⟩]
  avFindBestStream
    | .video => 0
    | .audio => 1
    | .other => -1
  found := by
    rintro (_ | _ | _) hexists
    · exact ⟨_, by decide, rfl, rfl⟩
    · exact ⟨_, by decide, rfl, rfl⟩
    · simp at hexists
  missing := by
    rintro (_ | _ | _) hnone
    · simp at hnone
    · simp at hnone
    · decide

/-- It is described with the second, and played with the first. -/
theorem description_twoAudio : ∃ sdp,
    generateSdp (some (checkMediaInfo (stereo 1) twoAudio.streams)) 17 (str "10.0.0.1") =
      some sdp ∧
    toldVideo (readSdp sdp) = twoAudio.sentVideo ∧ ¬ twoAudio.PlaysLast ∧
    ¬ (toldVideo (readSdp sdp) = twoAudio.sentVideo ∧
      toldAudio (readSdp sdp) = twoAudio.sentAudio) := by
  obtain ⟨hsome, hall⟩ := description_iff twoAudio (stereo 1) 17 (by decide : 0x0A ∉ str "10.0.0.1")
  have hdescribed : twoAudio.Described := ⟨fun _ => ⟨_, List.mem_cons_self, by decide⟩,
    fun _ => ⟨_, List.mem_cons_of_mem _ List.mem_cons_self, by decide⟩⟩
  obtain ⟨sdp, hsdp⟩ := Option.isSome_iff_exists.mp (hsome.mpr hdescribed)
  obtain ⟨hread, hiff⟩ := hall sdp hsdp
  have hnot : ¬ twoAudio.PlaysLast := by
    intro hlast
    obtain ⟨a, ha, haudio, -⟩ := hlast.audio ⟨.audio, .aac, 48000, 2, 1⟩ rfl
    obtain rfl := Option.some.inj ha
    exact AudioType.noConfusion (Option.some.inj haudio)
  refine ⟨sdp, hsdp, ?_, hnot, fun hboth => hnot (hiff.mp hboth)⟩
  rw [hread]
  decide

end SimpleRtsp
