import SimpleRtsp.Lib.CString

/-!
# The replies

The texts of `handleCmd_*`. Every reply has the request's number in its `CSeq:` line.
-/

namespace SimpleRtsp

open CString

/-- `status` and the `CSeq:` line. -/
def replyHead (status : String) (cseq : Int) : List UInt8 :=
  str status ++ str "\r\nCSeq: " ++ decimal cseq ++ str "\r\n"

def pair (n : Int) : List UInt8 := decimal n ++ str "-" ++ decimal (n + 1)

def handleCmdUnauthorized (cseq : Int) (realm nonce : List UInt8) : List UInt8 :=
  replyHead "RTSP/1.0 401 Unauthorized" cseq ++ str "WWW-Authenticate: Digest realm=\"" ++ realm ++
    str "\", nonce=\"" ++ nonce ++ str "\"\r\n\r\n"

def handleCmdOptions (cseq : Int) : List UInt8 :=
  replyHead "RTSP/1.0 200 OK" cseq ++ str "Public: OPTIONS, DESCRIBE, SETUP, PLAY\r\n\r\n"

def handleCmdDescribe (cseq : Int) (url sdp : List UInt8) : List UInt8 :=
  replyHead "RTSP/1.0 200 OK" cseq ++ str "Content-Base: " ++ url ++
    str "\r\nContent-type: application/sdp\r\nContent-length: " ++ decimal sdp.length ++
    str "\r\n\r\n" ++ sdp

def handleCmdSetupTcp (cseq : Int) (localIp clientIp : List UInt8) (sig0 : Int)
    (session : List UInt8) : List UInt8 :=
  replyHead "RTSP/1.0 200 OK" cseq ++ str "Transport: RTP/AVP/TCP;unicast;destination=" ++
    clientIp ++ str ";source=" ++ localIp ++ str ";interleaved=" ++ pair sig0 ++
    str "\r\nSession: " ++ session ++ str "\r\n\r\n"

def handleCmdSetupUdp (cseq clientRtpPort serverRtpPort : Int) (session : List UInt8) :
    List UInt8 :=
  replyHead "RTSP/1.0 200 OK" cseq ++ str "Transport: RTP/AVP;unicast;client_port=" ++
    pair clientRtpPort ++ str ";server_port=" ++ pair serverRtpPort ++ str "\r\nSession: " ++
    session ++ str "\r\n\r\n"

def handleCmdPlay (cseq : Int) (session : List UInt8) : List UInt8 :=
  replyHead "RTSP/1.0 200 OK" cseq ++ str "Range: npt=0.000-\r\nSession: " ++ session ++
    str "; timeout=60\r\n\r\n"

def handleCmd404 (cseq : Int) : List UInt8 :=
  replyHead "RTSP/1.0 404 NOT FOUND" cseq ++ str "\r\n"

def handleCmd500 (cseq : Int) : List UInt8 :=
  replyHead "RTSP/1.0 500 SERVER ERROR" cseq ++ str "\r\n"

end SimpleRtsp
