import TgWsProxy.Library.Io
import TgWsProxy.Source.Std.IpAddr
import TgWsProxy.Source.Std.Utf8

/-!
# SOCKS5 server handshake

`modules/socks.rs`: `handle_socks5_handshake` and the functions it calls, as
programs over the client's stream. A `ParseError` of the source carries the
standard library's text for a UTF-8 error; here it carries the octets that are
not UTF-8.
-/

set_option autoImplicit false

namespace TgWsProxy.Source.Socks
open Library Library.Io Source.Std

structure SocksUser where
  username : String
  password : String
  deriving DecidableEq, Repr

structure SocksAuthConfig where
  users : List SocksUser
  deriving DecidableEq, Repr

inductive SocksCommand where
  | connect (targetHost : String) (targetPort : UInt16)
  deriving DecidableEq, Repr

inductive SocksError where
  | unsupportedVersion
  | noAcceptableMethod
  | authenticationFailed
  | unsupportedCommand
  | unsupportedAddressType
  | io (err : IoError)
  | parseError (invalid : Bytes)
  deriving DecidableEq, Repr

/-- `read_exact(..).await?` in a function that returns `SocksError`. -/
def readOrFail (n : Nat) : Io SocksError Bytes := readExact (.io .unexpectedEof) n

def stringOrFail (bs : Bytes) : Io SocksError String :=
  match fromUtf8 bs with
  | some s => return s
  | none => fail (.parseError bs)

def readAuthField : Io SocksError String := do
  let len ← readOrFail 1
  let value ← readOrFail (len.getD 0 0).toNat
  stringOrFail value

def authenticateUser (auth : SocksAuthConfig) : Io SocksError Unit := do
  let version ← readOrFail 1
  if version.getD 0 0 ≠ 0x01 then do
    writeAll [0x01, 0x01]
    fail .authenticationFailed
  else do
    let username ← readAuthField
    let password ← readAuthField
    let accepted := auth.users.any fun user => user.username == username && user.password == password
    let status : UInt8 := if accepted then 0x00 else 0x01
    writeAll [0x01, status]
    if accepted then return () else fail .authenticationFailed

def readTargetAddress (atyp : UInt8) : Io SocksError String :=
  if atyp = 0x01 then do
    let addr ← readOrFail 4
    return (Ipv4Addr.ofOctets addr).toString
  else if atyp = 0x03 then do
    let len ← readOrFail 1
    let domain ← readOrFail (len.getD 0 0).toNat
    stringOrFail domain
  else if atyp = 0x04 then do
    let addr ← readOrFail 16
    return (Ipv6Addr.ofOctets addr).toString
  else fail .unsupportedAddressType

def selectedMethod (auth : Option SocksAuthConfig) : UInt8 := if auth.isSome then 0x02 else 0x00

/-- The phase that a configuration with users adds. -/
def authenticate (auth : Option SocksAuthConfig) : Io SocksError Unit :=
  match auth with
  | some auth => authenticateUser auth
  | none => return ()

def commandRefused : Bytes := [0x05, 0x07, 0x00, 0x01, 0, 0, 0, 0, 0, 0]

def successReply : Bytes := [0x05, 0x00, 0x00, 0x01, 0, 0, 0, 0, 0, 0]

def handleSocks5Handshake (auth : Option SocksAuthConfig) : Io SocksError SocksCommand := do
  let hdr ← readOrFail 2
  if hdr.getD 0 0 ≠ 0x05 then fail .unsupportedVersion
  else do
    let methods ← readOrFail (hdr.getD 1 0).toNat
    if selectedMethod auth ∉ methods then do
      writeAll [0x05, 0xFF]
      fail .noAcceptableMethod
    else do
      writeAll [0x05, selectedMethod auth]
      authenticate auth
      let req ← readOrFail 4
      if req.getD 0 0 ≠ 0x05 ∨ req.getD 1 0 ≠ 0x01 ∨ req.getD 2 0 ≠ 0x00 then do
        writeAll commandRefused
        fail .unsupportedCommand
      else do
        let target ← readTargetAddress (req.getD 3 0)
        let port ← readOrFail 2
        writeAll successReply
        return .connect target (UInt16.ofNat (ofBE port))

def isIpv6 (dst : String) : Bool := dst.toList.contains ':'

end TgWsProxy.Source.Socks
