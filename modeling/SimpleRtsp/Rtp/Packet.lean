import SimpleRtsp.Lib.ByteMem
import Mathlib.Tactic.IntervalCases

/-!
# RTP packets in memory and on the wire

The structures of `common.h` (`RtpHeader`, `RtpPacket`, `rtp_tcp_header`), `rtpHeaderInit`, and the
byte-order calls the packetisers make around every send. A header lives in host order between two
sends and in network order while a packet is on its way; `toNetwork` and `toHost` are the three
`hton`/`ntoh` assignments the senders write out each time, and `toHost_toNetwork` is why the header
survives a send unchanged. The layout is the one of the little-endian targets of the build files.
-/

namespace SimpleRtsp

/-! ## Constants of `common.h` -/

def RTP_VESION : UInt8 := 2
def RTP_PAYLOAD_TYPE_H26X : UInt8 := 96
def RTP_PAYLOAD_TYPE_AAC : UInt8 := 97
def RTP_PAYLOAD_TYPE_PCMA : UInt8 := 8
def RTP_HEADER_SIZE : Nat := 12
def PTK_RTP_TCP_MAX : Nat := 1400

/-! ## Byte order -/

/-- `htons`/`ntohs` on a little-endian host. -/
def htons (x : UInt16) : UInt16 := (x <<< 8) ||| (x >>> 8)

/-- `htonl`/`ntohl` on a little-endian host. -/
def htonl (x : UInt32) : UInt32 :=
  (x <<< 24) ||| ((x &&& (0xff00 : UInt32)) <<< 8) ||| ((x >>> 8) &&& (0xff00 : UInt32)) |||
    (x >>> 24)

/-- The two bytes of a `uint16_t` in memory. -/
def bytes16 (x : UInt16) : List UInt8 := [x.toUInt8, (x >>> 8).toUInt8]

/-- The four bytes of a `uint32_t` in memory. -/
def bytes32 (x : UInt32) : List UInt8 :=
  [x.toUInt8, (x >>> 8).toUInt8, (x >>> 16).toUInt8, (x >>> 24).toUInt8]

@[simp] theorem htons_htons (x : UInt16) : htons (htons x) = x := by
  apply UInt16.toBitVec_inj.1
  ext i hi
  interval_cases i <;> simp [htons]

@[simp] theorem htonl_htonl (x : UInt32) : htonl (htonl x) = x := by
  apply UInt32.toBitVec_inj.1
  ext i hi
  interval_cases i <;> simp [htonl]

theorem bytes16_htons (x : UInt16) : bytes16 (htons x) = [(x >>> 8).toUInt8, x.toUInt8] := by
  simp only [bytes16, List.cons.injEq, and_true]
  constructor <;> apply UInt8.toBitVec_inj.1 <;> ext i hi <;> interval_cases i <;> simp [htons]

theorem bytes32_htonl (x : UInt32) : bytes32 (htonl x) =
    [(x >>> 24).toUInt8, (x >>> 16).toUInt8, (x >>> 8).toUInt8, x.toUInt8] := by
  simp only [bytes32, List.cons.injEq, and_true]
  refine ⟨?_, ?_, ?_, ?_⟩ <;> apply UInt8.toBitVec_inj.1 <;> ext i hi <;> interval_cases i <;>
    simp [htonl]

/-! ## The structures -/

/-- `struct RtpHeader`, bit fields at their widths. -/
structure RtpHeader where
  csrcLen : BitVec 4
  extension : BitVec 1
  padding : BitVec 1
  version : BitVec 2
  payloadType : BitVec 7
  marker : BitVec 1
  seq : UInt16
  timestamp : UInt32
  ssrc : UInt32
  deriving DecidableEq, Repr

/-- `struct RtpPacket`: the header and the payload memory behind it. -/
structure RtpPacket where
  rtpHeader : RtpHeader
  payload : Mem

/-- `struct rtp_tcp_header`, the interleaved header. -/
structure RtpTcpHeader where
  magic : UInt8
  channel : UInt8
  rtpLen16 : UInt16
  deriving DecidableEq, Repr

/-- The twelve header bytes as they lie in memory; `csrcLen` and `payloadType` are the low bits of
their bytes. -/
def RtpHeader.bytes (h : RtpHeader) : List UInt8 :=
  [UInt8.ofBitVec (h.version ++ h.padding ++ h.extension ++ h.csrcLen : BitVec 8),
    UInt8.ofBitVec (h.marker ++ h.payloadType : BitVec 8)] ++
  bytes16 h.seq ++ bytes32 h.timestamp ++ bytes32 h.ssrc

/-- The four bytes of the interleaved header in memory. -/
def RtpTcpHeader.bytes (h : RtpTcpHeader) : List UInt8 :=
  [h.magic, h.channel] ++ bytes16 h.rtpLen16

@[simp] theorem RtpHeader.length_bytes (h : RtpHeader) : h.bytes.length = RTP_HEADER_SIZE := rfl

@[simp] theorem RtpTcpHeader.length_bytes (h : RtpTcpHeader) : h.bytes.length = 4 := rfl

/-- What `send(sd, rtp_packet, RTP_HEADER_SIZE + n, 0)` reads: the header and `n` payload bytes. -/
def RtpPacket.bytes (p : RtpPacket) (n : Nat) : List UInt8 :=
  p.rtpHeader.bytes ++ p.payload.read 0 n

@[simp] theorem RtpPacket.length_bytes (p : RtpPacket) (n : Nat) :
    (p.bytes n).length = RTP_HEADER_SIZE + n := by
  simp [RtpPacket.bytes]

/-- `rtpHeaderInit`: every field is set, each cut to its bit field. -/
def rtpHeaderInit (rtpPacket : RtpPacket) (csrcLen extension padding version payloadType
    marker : UInt8) (seq : UInt16) (timestamp ssrc : UInt32) : RtpPacket :=
  { rtpPacket with
    rtpHeader :=
      { csrcLen := csrcLen.toBitVec.setWidth 4
        extension := extension.toBitVec.setWidth 1
        padding := padding.toBitVec.setWidth 1
        version := version.toBitVec.setWidth 2
        payloadType := payloadType.toBitVec.setWidth 7
        marker := marker.toBitVec.setWidth 1
        seq := seq
        timestamp := timestamp
        ssrc := ssrc } }

/-- The three assignments before a send: `seq`, `timestamp` and `ssrc` to network order. -/
def RtpHeader.toNetwork (h : RtpHeader) : RtpHeader :=
  { h with seq := htons h.seq, timestamp := htonl h.timestamp, ssrc := htonl h.ssrc }

/-- The three assignments after a successful send, back to host order. -/
def RtpHeader.toHost (h : RtpHeader) : RtpHeader :=
  { h with seq := htons h.seq, timestamp := htonl h.timestamp, ssrc := htonl h.ssrc }

@[simp] theorem RtpHeader.toHost_toNetwork (h : RtpHeader) : h.toNetwork.toHost = h := by
  simp [RtpHeader.toHost, RtpHeader.toNetwork]

end SimpleRtsp
