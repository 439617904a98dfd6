import HushWire.Router
import HushWire.Library.Numerals

namespace HushWire

/-!
# How endpoints are written

An endpoint is read by two parsers in turn: as a socket address, and as a DNS
name with a port.  The DNS names include texts that look like an IPv4 address,
and the port of a name may have a sign that the port of a socket address may
not have.

The texts of IPv6 addresses are a parameter.
-/

open Text (splitLast readNumber)

/-- A port, as a socket address has it. -/
def readPort (digits : List Char) : Option UInt16 :=
  (readNumber digits).bind fun value =>
    if value < 65536 then some (UInt16.ofNat value) else none

/-- `u16::from_str`, which accepts a sign. -/
def parsePort : List Char → Option UInt16
  | '+' :: digits => readPort digits
  | digits => readPort digits

namespace Ipv4Addr

/-- A byte in at most three digits, of which the first of several is not 0. -/
def readOctet (digits : List Char) : Option UInt8 :=
  if 3 < digits.length ∨ (digits.head? = some '0' ∧ 1 < digits.length) then
    none
  else
    (readNumber digits).bind fun value =>
      if value < 256 then some (UInt8.ofNat value) else none

/-- Four bytes, separated by dots. -/
def parse (text : List Char) : Option Ipv4Addr :=
  match (text.splitOn '.').map readOctet with
  | [some first, some second, some third, some fourth] =>
      some (ofOctets first second third fourth)
  | _ => none

theorem readOctet_toString (byte : UInt8) :
    readOctet (toString byte).toList = some byte := by
  have each :
      ∀ value : Fin 256,
        readOctet (toString (UInt8.ofNat value.val)).toList =
          some (UInt8.ofNat value.val) := by
    decide +kernel
  simpa using each ⟨byte.toNat, byte.toNat_lt⟩

theorem isDigit_of_readOctet
    {digits : List Char}
    {byte : UInt8}
    (isOctet : readOctet digits = some byte)
    {symbol : Char}
    (member : symbol ∈ digits) :
    symbol.isDigit := by
  unfold readOctet at isOctet
  split at isOctet
  next =>
    cases isOctet
  next =>
    obtain ⟨value, isNumber, _⟩ := Option.bind_eq_some_iff.mp isOctet
    exact Text.isDigit_of_readNumber isNumber member

/-- Reading what is written gives the address. -/
@[simp] theorem parse_text (address : Ipv4Addr) :
    parse address.text.toList = some address := by
  have parts :
      address.text.toList.splitOn '.' =
        address.octets.toList.map fun byte => (toString byte).toList := by
    have nonempty :
        (address.octets.toList.map toString).map String.toList ≠ [] := by
      simp [octets]
    rw [text, dotted, String.toList_intercalate]
    refine (List.splitOn_intercalate '.' ?_ nonempty).trans List.map_map
    intro digits member
    rw [List.map_map] at member
    obtain ⟨byte, _, rfl⟩ := List.mem_map.mp member
    intro dot
    cases isDigit_of_readOctet (readOctet_toString byte) dot
  have octetsRead :
      (address.text.toList.splitOn '.').map readOctet =
        [some address.octets[0], some address.octets[1],
          some address.octets[2], some address.octets[3]] := by
    rw [parts, List.map_map]
    exact List.map_congr_left fun byte _ => readOctet_toString byte
  rw [parse, octetsRead]
  exact congrArg some (ofOctets_octets address)

/-- An IPv4 address is written with digits and dots. -/
theorem mem_of_parse
    {text : List Char}
    {address : Ipv4Addr}
    (parsed : parse text = some address)
    {symbol : Char}
    (member : symbol ∈ text) :
    symbol.isDigit ∨ symbol = '.' := by
  have allRead :
      ∀ part ∈ text.splitOn '.', ∃ byte, readOctet part = some byte := by
    unfold parse at parsed
    split at parsed
    next first second third fourth read =>
      intro part isPart
      have isOctet : readOctet part ∈ (text.splitOn '.').map readOctet :=
        List.mem_map_of_mem isPart
      rw [read] at isOctet
      simp only [List.mem_cons, List.not_mem_nil, or_false] at isOctet
      rcases isOctet with isOctet | isOctet | isOctet | isOctet <;>
        exact ⟨_, isOctet⟩
    next =>
      cases parsed
  by_cases isDot : symbol = '.'
  · exact .inr isDot
  · obtain ⟨part, isPart, inPart⟩ := Text.mem_part_of_mem member isDot
    obtain ⟨byte, isOctet⟩ := allRead part isPart
    exact .inl (isDigit_of_readOctet isOctet inPart)

end Ipv4Addr

/-- How IPv6 addresses are read and written. -/
structure Ipv6Text where
  parse : List Char → Option (BitVec 128)
  text : BitVec 128 → String

/-- What is written is read back, and has no scope in it. -/
structure Ipv6Text.Lawful (ipv6 : Ipv6Text) : Prop where
  parse_text (address : BitVec 128) :
    ipv6.parse (ipv6.text address).toList = some address
  noScope (address : BitVec 128) : '%' ∉ (ipv6.text address).toList

/-- An endpoint with the scope of its literal, 0 where it has none. -/
structure ParsedEndpoint extends PeerEndpoint where
  scopeId : UInt32
  deriving DecidableEq

inductive PeerEndpointParseError where
  | invalidFormat
  | invalidPort
  | invalidDnsName
  deriving DecidableEq

/-- The text of an error. -/
def PeerEndpointParseError.message : PeerEndpointParseError → String
  | .invalidFormat =>
      "endpoint must be an IP address or DNS name followed by :port"
  | .invalidPort => "endpoint has an invalid port"
  | .invalidDnsName => "endpoint has an invalid DNS name"

section Decimals

@[simp] theorem readPort_toString (port : UInt16) :
    readPort (toString port).toList = some port := by
  change readPort port.toNat.repr.toList = some port
  rw [readPort, Text.readNumber_repr, Option.bind_some,
    if_pos port.toNat_lt, UInt16.ofNat_toNat]

/-- The digits of a port are digits. -/
theorem isDigit_of_readPort
    {digits : List Char}
    {port : UInt16}
    (isPort : readPort digits = some port)
    {symbol : Char}
    (member : symbol ∈ digits) :
    symbol.isDigit := by
  obtain ⟨value, isNumber, _⟩ := Option.bind_eq_some_iff.mp isPort
  exact Text.isDigit_of_readNumber isNumber member

/-- A port that is written has no colon in it. -/
theorem colon_notMem_toString (port : UInt16) :
    ':' ∉ (toString port).toList := by
  intro member
  have isDigit := isDigit_of_readPort (readPort_toString port) member
  cases isDigit

/-- Only a sign makes a port that a socket address may not have. -/
theorem readPort_of_parsePort
    {rawPort : List Char}
    {port : UInt16}
    (parsed : parsePort rawPort = some port)
    (unsigned : rawPort.head? ≠ some '+') :
    readPort rawPort = some port := by
  cases rawPort with
  | nil =>
      exact parsed
  | cons first rest =>
      have notSign : first ≠ '+' := by simpa using unsigned
      rwa [parsePort] at parsed
      intro digits isRest
      exact notSign (List.cons.inj isRest).1

@[simp] theorem parsePort_toString (port : UInt16) :
    parsePort (toString port).toList = some port := by
  have read := readPort_toString port
  cases digits : (toString port).toList with
  | nil =>
      rw [digits] at read
      exact read
  | cons first rest =>
      rw [digits] at read
      have isDigit : first.isDigit :=
        isDigit_of_readPort read List.mem_cons_self
      rw [parsePort, read]
      rintro later isSigned
      cases (List.cons.inj isSigned).1
      cases isDigit

end Decimals

/-- The number of bytes of a text. -/
def byteLen (text : List Char) : Nat :=
  (text.map Char.utf8Size).sum

/-- A label of a DNS name. -/
def validLabel (label : List Char) : Bool :=
  !label.isEmpty && byteLen label ≤ 63 && label.head? != some '-' &&
    label.getLast? != some '-' &&
    label.all fun character => character.isAlphanum || character = '-'

def validDnsName (value : List Char) : Bool :=
  let value := if value.getLast? = some '.' then value.dropLast else value
  !value.isEmpty && byteLen value ≤ 253 && (value.splitOn '.').all validLabel

/-- A DNS name has letters, digits, hyphens and dots. -/
theorem mem_of_validDnsName
    {value : List Char}
    (valid : validDnsName value)
    {symbol : Char}
    (member : symbol ∈ value) :
    symbol.isAlphanum ∨ symbol = '-' ∨ symbol = '.' := by
  by_cases isDot : symbol = '.'
  · exact .inr (.inr isDot)
  · have inName :
        symbol ∈
          if value.getLast? = some '.' then value.dropLast else value := by
      split
      next endsInDot =>
        obtain ⟨front, rfl⟩ := List.getLast?_eq_some_iff.mp endsInDot
        rw [List.dropLast_concat]
        exact (List.mem_append.mp member).resolve_right
          (List.mem_singleton.not.mpr isDot)
      next =>
        exact member
    have labels := (Bool.and_eq_true_iff.mp valid).2
    obtain ⟨label, isLabel, inLabel⟩ := Text.mem_part_of_mem inName isDot
    have validLabel := List.all_eq_true.mp labels label isLabel
    have plain :=
      List.all_eq_true.mp (Bool.and_eq_true_iff.mp validLabel).2 symbol inLabel
    rcases Bool.or_eq_true_iff.mp plain with alphanumeric | isHyphen
    · exact .inl alphanumeric
    · exact .inr (.inl (of_decide_eq_true isHyphen))

section Texts

variable (ipv6 : Ipv6Text)

/-- An IPv6 address in brackets, with the number of its scope if it has one. -/
def parseBracketed : List Char → Option (BitVec 128 × UInt32)
  | '[' :: rest =>
      if rest.getLast? = some ']' then
        match splitLast '%' rest.dropLast with
        | none => (ipv6.parse rest.dropLast).map fun address => (address, 0)
        | some (address, scope) =>
            (ipv6.parse address).bind fun address =>
              (readNumber scope).bind fun scopeId =>
                if scopeId < 4294967296 then
                  some (address, UInt32.ofNat scopeId)
                else
                  none
      else
        none
  | _ => none

/-- A socket address and its scope. -/
def parseSocketAddr (value : List Char) : Option (SocketAddr × UInt32) :=
  (splitLast ':' value).bind fun (host, rawPort) =>
    (readPort rawPort).bind fun port =>
      match Ipv4Addr.parse host with
      | some address => some (⟨.v4 address, port⟩, 0)
      | none =>
          (parseBracketed ipv6 host).map fun (address, scopeId) =>
            (⟨.v6 address, port⟩, scopeId)

/-- The text of an address alone. -/
def IpAddr.text : IpAddr → String
  | .v4 address => address.text
  | .v6 address => ipv6.text address

namespace ParsedEndpoint

/-- `From<SocketAddr> for PeerEndpoint`. -/
def ofSocketAddr (literal : SocketAddr) (scopeId : UInt32) :
    ParsedEndpoint where
  toPeerEndpoint := .ofSocketAddr (literal.ip.text ipv6) literal
  scopeId := scopeId

/-- `FromStr for PeerEndpoint`. -/
def fromStr (value : String) :
    Except PeerEndpointParseError ParsedEndpoint :=
  match parseSocketAddr ipv6 value.toList with
  | some (literal, scopeId) => .ok (ofSocketAddr ipv6 literal scopeId)
  | none =>
      match splitLast ':' value.toList with
      | none => .error .invalidFormat
      | some (host, rawPort) =>
          if host = [] ∨ ':' ∈ host ∨
              Text.trimList Text.isWhiteSpace host ≠ host then
            .error .invalidFormat
          else
            match parsePort rawPort with
            | none => .error .invalidPort
            | some port =>
                if validDnsName host then
                  .ok
                    { host := .ofList host
                      port
                      literal := none
                      scopeId := 0 }
                else
                  .error .invalidDnsName

/-- `Display for PeerEndpoint`. -/
def display (endpoint : ParsedEndpoint) : String :=
  match endpoint.literal with
  | some ⟨.v4 address, port⟩ => s!"{address.text}:{port}"
  | some ⟨.v6 address, port⟩ =>
      if endpoint.scopeId = 0 then
        s!"[{ipv6.text address}]:{port}"
      else
        s!"[{ipv6.text address}%{endpoint.scopeId}]:{port}"
  | none => s!"{endpoint.host}:{endpoint.port}"

end ParsedEndpoint

end Texts

section Reparsing

variable {ipv6 : Ipv6Text}

/-- A text of which one symbol does not occur in an IPv4 address is none. -/
theorem Ipv4Addr.parse_eq_none
    {text : List Char}
    {symbol : Char}
    (member : symbol ∈ text)
    (notDigit : symbol.isDigit = false)
    (notDot : symbol ≠ '.') :
    Ipv4Addr.parse text = none := by
  rw [Option.eq_none_iff_forall_ne_some]
  intro address parsed
  rcases Ipv4Addr.mem_of_parse parsed member with isDigit | isDot
  · rw [notDigit] at isDigit
    cases isDigit
  · exact notDot isDot

/-- A port that is written is the last part of a text. -/
theorem splitLast_port
    (host : List Char)
    (port : UInt16) :
    splitLast ':' (host ++ ':' :: (toString port).toList) =
      some (host, (toString port).toList) :=
  Text.splitLast_append (colon_notMem_toString port) host

/-- What a socket address was read from. -/
theorem parseSocketAddr_eq_some
    {value : List Char}
    {literal : SocketAddr}
    {scopeId : UInt32}
    (parsed : parseSocketAddr ipv6 value = some (literal, scopeId)) :
    ∃ host rawPort,
      splitLast ':' value = some (host, rawPort) ∧
      readPort rawPort = some literal.port ∧
      (literal.ip.isIpv4 → scopeId = 0) := by
  obtain ⟨⟨host, rawPort⟩, split, hostParsed⟩ :=
    Option.bind_eq_some_iff.mp parsed
  obtain ⟨port, isPort, addressParsed⟩ := Option.bind_eq_some_iff.mp hostParsed
  dsimp only at isPort addressParsed
  refine ⟨host, rawPort, split, ?_⟩
  cases isIpv4 : Ipv4Addr.parse host with
  | some address =>
      rw [isIpv4] at addressParsed
      cases addressParsed
      exact ⟨isPort, fun _ => rfl⟩
  | none =>
      rw [isIpv4] at addressParsed
      obtain ⟨bracketed, _, isLiteral⟩ :=
        Option.map_eq_some_iff.mp addressParsed
      cases isLiteral
      exact ⟨isPort, fun isV4 => by cases isV4⟩

/-- An address in brackets is read back. -/
theorem parseBracketed_text
    (lawful : ipv6.Lawful)
    (address : BitVec 128) :
    parseBracketed ipv6 ('[' :: ((ipv6.text address).toList ++ [']'])) =
      some (address, 0) := by
  have unscoped : splitLast '%' (ipv6.text address).toList = none :=
    Text.splitLast_eq_none_iff.mpr (lawful.noScope address)
  simp only [parseBracketed, List.getLast?_concat, List.dropLast_concat,
    if_true, unscoped, lawful.parse_text, Option.map_some]

/-- An address in brackets is read back with its scope. -/
theorem parseBracketed_scoped
    (lawful : ipv6.Lawful)
    (address : BitVec 128)
    (scopeId : UInt32) :
    parseBracketed ipv6
        ('[' ::
          ((ipv6.text address).toList ++ '%' :: (toString scopeId).toList ++
            [']'])) =
      some (address, scopeId) := by
  have isNumber :
      readNumber (toString scopeId).toList = some scopeId.toNat :=
    Text.readNumber_repr scopeId.toNat
  have atScope :
      splitLast '%'
          ((ipv6.text address).toList ++ '%' :: (toString scopeId).toList) =
        some ((ipv6.text address).toList, (toString scopeId).toList) := by
    refine Text.splitLast_append (fun member => ?_) _
    cases Text.isDigit_of_readNumber isNumber member
  simp only [parseBracketed, List.getLast?_concat, List.dropLast_concat,
    if_true, atScope, lawful.parse_text, isNumber, Option.bind_some,
    if_pos scopeId.toNat_lt, UInt32.ofNat_toNat]

theorem ParsedEndpoint.display_v4
    (address : Ipv4Addr)
    (port : UInt16)
    (scopeId : UInt32) :
    (ofSocketAddr ipv6 ⟨.v4 address, port⟩ scopeId).display ipv6 =
      address.text ++ ":" ++ toString port :=
  rfl

theorem ParsedEndpoint.display_v6
    (address : BitVec 128)
    (port : UInt16)
    (scopeId : UInt32) :
    (ofSocketAddr ipv6 ⟨.v6 address, port⟩ scopeId).display ipv6 =
      if scopeId = 0 then
        "[" ++ ipv6.text address ++ "]:" ++ toString port
      else
        "[" ++ ipv6.text address ++ "%" ++ toString scopeId ++ "]:" ++
          toString port :=
  rfl

/-- A socket address that is written is read back. -/
theorem parseSocketAddr_display
    (lawful : ipv6.Lawful)
    (literal : SocketAddr)
    (scopeId : UInt32)
    (unscoped : literal.ip.isIpv4 → scopeId = 0) :
    parseSocketAddr ipv6
        ((ParsedEndpoint.ofSocketAddr ipv6 literal scopeId).display
          ipv6).toList =
      some (literal, scopeId) := by
  obtain ⟨ip, port⟩ := literal
  have read (host : List Char) :
      parseSocketAddr ipv6 (host ++ ':' :: (toString port).toList) =
        match Ipv4Addr.parse host with
        | some address => some (⟨.v4 address, port⟩, 0)
        | none =>
            (parseBracketed ipv6 host).map fun (address, scopeId) =>
              (⟨.v6 address, port⟩, scopeId) := by
    rw [parseSocketAddr, splitLast_port, Option.bind_some]
    dsimp only
    rw [readPort_toString, Option.bind_some]
  cases ip with
  | v4 address =>
      cases unscoped rfl
      rw [ParsedEndpoint.display_v4, String.toList_append,
        String.toList_append, List.append_assoc]
      exact (read _).trans (by rw [Ipv4Addr.parse_text])
  | v6 address =>
      have bracketed
          (host : List Char)
          (inBrackets : parseBracketed ipv6 ('[' :: host) =
            some (address, scopeId)) :
          parseSocketAddr ipv6
              ('[' :: host ++ ':' :: (toString port).toList) =
            some (⟨.v6 address, port⟩, scopeId) := by
        rw [read, Ipv4Addr.parse_eq_none List.mem_cons_self rfl (by decide),
          inBrackets, Option.map_some]
      rw [ParsedEndpoint.display_v6]
      by_cases isZero : scopeId = 0
      · subst isZero
        rw [if_pos rfl]
        have written :
            ("[" ++ ipv6.text address ++ "]:" ++ toString port).toList =
              '[' :: ((ipv6.text address).toList ++ [']']) ++
                ':' :: (toString port).toList := by
          simp [String.toList_append]
        exact (congrArg (parseSocketAddr ipv6) written).trans
          (bracketed _ (parseBracketed_text lawful address))
      · rw [if_neg isZero]
        have written :
            ("[" ++ ipv6.text address ++ "%" ++ toString scopeId ++ "]:" ++
                toString port).toList =
              '[' ::
                ((ipv6.text address).toList ++
                    '%' :: (toString scopeId).toList ++ [']']) ++
                ':' :: (toString port).toList := by
          simp [String.toList_append]
        exact (congrArg (parseSocketAddr ipv6) written).trans
          (bracketed _ (parseBracketed_scoped lawful address scopeId))

/-- A literal that was read is read again from its text. -/
theorem fromStr_display_literal
    (lawful : ipv6.Lawful)
    {value : List Char}
    {literal : SocketAddr}
    {scopeId : UInt32}
    (parsed : parseSocketAddr ipv6 value = some (literal, scopeId)) :
    ParsedEndpoint.fromStr ipv6
        ((ParsedEndpoint.ofSocketAddr ipv6 literal scopeId).display ipv6) =
      .ok (.ofSocketAddr ipv6 literal scopeId) := by
  obtain ⟨_, _, _, _, unscoped⟩ := parseSocketAddr_eq_some parsed
  rw [ParsedEndpoint.fromStr,
    parseSocketAddr_display lawful literal scopeId unscoped]

/-- How an endpoint that is no socket address was accepted. -/
structure ReadAsName
    (ipv6 : Ipv6Text)
    (value : String)
    (endpoint : ParsedEndpoint) :
    Prop where
  noLiteral : parseSocketAddr ipv6 value.toList = none
  split :
    ∃ rawPort,
      splitLast ':' value.toList = some (endpoint.host.toList, rawPort) ∧
      parsePort rawPort = some endpoint.port
  nonempty : endpoint.host.toList ≠ []
  noColon : ':' ∉ endpoint.host.toList
  trimmed :
    Text.trimList Text.isWhiteSpace endpoint.host.toList =
      endpoint.host.toList
  validName : validDnsName endpoint.host.toList
  isName : endpoint.literal = none
  unscoped : endpoint.scopeId = 0

/-- An endpoint is read as a socket address or as a name. -/
theorem fromStr_cases
    {value : String}
    {endpoint : ParsedEndpoint}
    (accepted : ParsedEndpoint.fromStr ipv6 value = .ok endpoint) :
    (∃ literal scopeId,
      parseSocketAddr ipv6 value.toList = some (literal, scopeId) ∧
      endpoint = .ofSocketAddr ipv6 literal scopeId) ∨
      ReadAsName ipv6 value endpoint := by
  unfold ParsedEndpoint.fromStr at accepted
  split at accepted
  next literal scopeId parsed =>
    cases accepted
    exact .inl ⟨literal, scopeId, parsed, rfl⟩
  next noLiteral =>
    right
    split at accepted
    · cases accepted
    next host rawPort split =>
      split at accepted
      · cases accepted
      next wellFormed =>
        obtain ⟨nonempty, noColon, trimmed⟩ :
            host ≠ [] ∧ ':' ∉ host ∧
              Text.trimList Text.isWhiteSpace host = host := by
          simpa only [not_or, not_not] using wellFormed
        split at accepted
        · cases accepted
        next port isPort =>
          split at accepted
          next validName =>
            cases accepted
            have hostText : (String.ofList host).toList = host :=
              String.toList_ofList
            exact
              { noLiteral
                split := ⟨rawPort, hostText.symm ▸ split, isPort⟩
                nonempty := hostText.symm ▸ nonempty
                noColon := hostText.symm ▸ noColon
                trimmed := hostText.symm ▸ trimmed
                validName := hostText.symm ▸ validName
                isName := rfl
                unscoped := rfl }
          · cases accepted

namespace ReadAsName

variable {value : String} {endpoint : ParsedEndpoint}

theorem display_toList (asName : ReadAsName ipv6 value endpoint) :
    (endpoint.display ipv6).toList =
      endpoint.host.toList ++ ':' :: (toString endpoint.port).toList := by
  have written :
      endpoint.display ipv6 =
        endpoint.host ++ ":" ++ toString endpoint.port := by
    rw [ParsedEndpoint.display, asName.isName]
    rfl
  rw [written, String.toList_append, String.toList_append, List.append_assoc]
  rfl

/-- A name has no bracket in it. -/
theorem noBracket (asName : ReadAsName ipv6 value endpoint) :
    '[' ∉ endpoint.host.toList := by
  intro member
  rcases mem_of_validDnsName asName.validName member with
    isAlphanum | isHyphen | isDot
  · cases isAlphanum
  · cases isHyphen
  · cases isDot

/-- The text of a name that is no IPv4 address is no socket address. -/
theorem display_noLiteral
    (asName : ReadAsName ipv6 value endpoint)
    (notIpv4 : Ipv4Addr.parse endpoint.host.toList = none) :
    parseSocketAddr ipv6 (endpoint.display ipv6).toList = none := by
  have notBracketed : parseBracketed ipv6 endpoint.host.toList = none := by
    unfold parseBracketed
    split
    next rest isHost =>
      exact absurd (isHost ▸ List.mem_cons_self) asName.noBracket
    next =>
      rfl
  rw [asName.display_toList, parseSocketAddr, splitLast_port,
    Option.bind_some]
  dsimp only
  rw [readPort_toString, Option.bind_some, notIpv4, notBracketed]
  rfl

/-- A name that is no IPv4 address is read again from its text. -/
theorem fromStr_display
    (asName : ReadAsName ipv6 value endpoint)
    (notIpv4 : Ipv4Addr.parse endpoint.host.toList = none) :
    ParsedEndpoint.fromStr ipv6 (endpoint.display ipv6) = .ok endpoint := by
  have wellFormed :
      ¬(endpoint.host.toList = [] ∨ ':' ∈ endpoint.host.toList ∨
        Text.trimList Text.isWhiteSpace endpoint.host.toList ≠
          endpoint.host.toList) := by
    rintro (isEmpty | hasColon | untrimmed)
    · exact asName.nonempty isEmpty
    · exact asName.noColon hasColon
    · exact untrimmed asName.trimmed
  rw [ParsedEndpoint.fromStr, asName.display_noLiteral notIpv4,
    asName.display_toList, splitLast_port]
  dsimp only
  rw [if_neg wellFormed, parsePort_toString]
  dsimp only
  rw [if_pos asName.validName, String.ofList_toList]
  obtain ⟨⟨host, port, literal⟩, scopeId⟩ := endpoint
  cases asName.isName
  cases asName.unscoped
  rfl

end ReadAsName

/-- The address is an IPv4 address, and its port has a sign. -/
def signsIpv4Port (value : String) : Bool :=
  match splitLast ':' value.toList with
  | some (host, '+' :: _) => (Ipv4Addr.parse host).isSome
  | _ => false

/-- The port of a socket address has no sign. -/
theorem signsIpv4Port_of_parseSocketAddr
    {value : String}
    {literal : SocketAddr}
    {scopeId : UInt32}
    (parsed : parseSocketAddr ipv6 value.toList = some (literal, scopeId)) :
    signsIpv4Port value = false := by
  obtain ⟨host, rawPort, split, isPort, _⟩ := parseSocketAddr_eq_some parsed
  unfold signsIpv4Port
  rw [split]
  split
  next isSplit =>
    cases isSplit
    cases isDigit_of_readPort isPort List.mem_cons_self
  next =>
    rfl

/-- An IPv4 address is read as a name only because of the sign. -/
theorem ReadAsName.signsIpv4Port_eq
    {value : String}
    {endpoint : ParsedEndpoint}
    (asName : ReadAsName ipv6 value endpoint) :
    signsIpv4Port value =
      (Ipv4Addr.parse endpoint.host.toList).isSome := by
  obtain ⟨rawPort, split, isPort⟩ := asName.split
  unfold signsIpv4Port
  rw [split]
  split
  next isSplit =>
    cases isSplit
    rfl
  next unsigned =>
    cases isIpv4 : Ipv4Addr.parse endpoint.host.toList with
    | none =>
        rfl
    | some address =>
        have read : readPort rawPort = some endpoint.port := by
          refine readPort_of_parsePort isPort fun isSign => ?_
          obtain ⟨digits, rfl⟩ := List.head?_eq_some_iff.mp isSign
          exact unsigned _ _ rfl
        have literal := asName.noLiteral
        rw [parseSocketAddr, split, Option.bind_some] at literal
        dsimp only at literal
        rw [read, Option.bind_some, isIpv4] at literal
        cases literal

/--
An endpoint that was accepted is read again from its text, and is a literal if
its host is an IPv4 address, if and only if it is not an IPv4 address whose
port has a sign.
-/
theorem endpoint_reparses_iff
    (lawful : ipv6.Lawful)
    {value : String}
    {endpoint : ParsedEndpoint}
    (accepted : ParsedEndpoint.fromStr ipv6 value = .ok endpoint) :
    (ParsedEndpoint.fromStr ipv6 (endpoint.display ipv6) = .ok endpoint ∧
        ((Ipv4Addr.parse endpoint.host.toList).isSome →
          endpoint.isDnsName = false)) ↔
      signsIpv4Port value = false := by
  rcases fromStr_cases accepted with
    ⟨literal, scopeId, parsed, rfl⟩ | asName
  · refine iff_of_true ?_ (signsIpv4Port_of_parseSocketAddr parsed)
    exact ⟨fromStr_display_literal lawful parsed, fun _ => rfl⟩
  · rw [asName.signsIpv4Port_eq, Option.isSome_eq_false_iff,
      Option.isNone_iff_eq_none]
    constructor
    · rintro ⟨_, isLiteral⟩
      rw [Option.eq_none_iff_forall_ne_some]
      intro address isIpv4
      have notName := isLiteral (Option.isSome_iff_exists.mpr ⟨_, isIpv4⟩)
      rw [PeerEndpoint.isDnsName, asName.isName] at notName
      cases notName
    · intro notIpv4
      refine ⟨asName.fromStr_display notIpv4, fun isIpv4 => ?_⟩
      rw [notIpv4] at isIpv4
      cases isIpv4

/-- Without a scope, an accepted endpoint is written as the router writes it. -/
theorem display_eq_text
    {value : String}
    {endpoint : ParsedEndpoint}
    (accepted : ParsedEndpoint.fromStr ipv6 value = .ok endpoint)
    (unscoped : endpoint.scopeId = 0) :
    endpoint.display ipv6 = endpoint.text := by
  rcases fromStr_cases accepted with
    ⟨⟨ip, port⟩, scopeId, parsed, rfl⟩ | asName
  · cases ip with
    | v4 address =>
        rfl
    | v6 address =>
        exact if_pos unscoped
  · rw [ParsedEndpoint.display, PeerEndpoint.text, asName.isName]

end Reparsing

section Decimal

/-- IPv6 addresses as one number. -/
def decimalIpv6 : Ipv6Text where
  parse := fun digits => (readNumber digits).map (BitVec.ofNat 128)
  text := fun address => address.toNat.repr

theorem decimalIpv6_lawful : decimalIpv6.Lawful where
  parse_text := fun address => by
    change (readNumber address.toNat.repr.toList).map _ = some address
    rw [Text.readNumber_repr, Option.map_some, BitVec.ofNat_toNat,
      BitVec.setWidth_eq]
  noScope := fun address member => by
    cases Text.isDigit_of_readNumber (Text.readNumber_repr _) member

/-- A port with leading zeros is that of a literal. -/
theorem endpoint_reparses_example :
    ParsedEndpoint.fromStr decimalIpv6 "192.0.2.10:0011063" =
        .ok (.ofSocketAddr decimalIpv6 ⟨.v4 0xc000020a, 11063⟩ 0) ∧
      ParsedEndpoint.fromStr decimalIpv6 "192.0.2.10:11063" =
        .ok (.ofSocketAddr decimalIpv6 ⟨.v4 0xc000020a, 11063⟩ 0) := by
  have accepted :
      ParsedEndpoint.fromStr decimalIpv6 "192.0.2.10:0011063" =
        .ok (.ofSocketAddr decimalIpv6 ⟨.v4 0xc000020a, 11063⟩ 0) := by
    decide +kernel
  have displayed :
      (ParsedEndpoint.ofSocketAddr decimalIpv6
          ⟨.v4 0xc000020a, 11063⟩ 0).display decimalIpv6 =
        "192.0.2.10:11063" := by
    decide +kernel
  have reparsed :=
    ((endpoint_reparses_iff decimalIpv6_lawful accepted).mpr
      (by decide +kernel)).1
  exact ⟨accepted, displayed ▸ reparsed⟩

/--
With a sign before its port, an IPv4 address is accepted as a name, and its
text is that of a literal.
-/
theorem endpoint_reparses_counterexample :
    ∃ endpoint reparsed,
      ParsedEndpoint.fromStr decimalIpv6 "192.0.2.10:+11063" = .ok endpoint ∧
      ParsedEndpoint.fromStr decimalIpv6 (endpoint.display decimalIpv6) =
        .ok reparsed ∧
      reparsed ≠ endpoint ∧
      (Ipv4Addr.parse endpoint.host.toList).isSome ∧
      endpoint.isDnsName = true :=
  ⟨⟨⟨"192.0.2.10", 11063, none⟩, 0⟩,
    .ofSocketAddr decimalIpv6 ⟨.v4 0xc000020a, 11063⟩ 0, by decide +kernel,
    by decide +kernel, by decide +kernel, by decide +kernel, rfl⟩

end Decimal

end HushWire
