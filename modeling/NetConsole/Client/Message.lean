import NetConsole.Client.Http
import NetConsole.Decimal.Digits

/-!
# Requests and answers as bytes

The bytes in which a request goes over a connection, and the answer that bytes from one are. Every
connection is used for one request and closed after it.
-/

set_option autoImplicit false

namespace NetConsole

/-! ## Requests -/

/-- The path and query of a URL as a request names them. -/
def Url.target (url : Url) : String := url.pathText ++ Url.marked "?" url.query

/-- Whether a request tells the length of its body: if it has one, or if its method is for
requests that have. -/
def Sent.tellsLength (request : Sent) : Bool :=
  request.body ≠ [] || request.method = .post || request.method = .put

/-- The lines before the body of a request, without their ends. -/
def Sent.lines (request : Sent) : List String :=
  [request.method.name ++ " " ++ request.url.target ++ " HTTP/1.1",
    "host: " ++ (request.url.authority.map (·.hostText)).getD ""] ++
    request.headers.map (fun (name, value) => name ++ ": " ++ value) ++
    (if request.tellsLength then ["content-length: " ++ toString request.body.length] else []) ++
    ["connection: close", ""]

def Sent.bytes (request : Sent) : List UInt8 :=
  request.lines.flatMap (fun line => Text.bytes (line ++ "\r\n")) ++ request.body

/-! ## Answers -/

namespace Answer

/-- Characters up to the end of a line, and those after it; nothing if no line ends. A carriage
return before the line feed belongs to the end. -/
def splitLine : List UInt8 → Option (List UInt8 × List UInt8)
  | [] => none
  | 13 :: 10 :: rest => some ([], rest)
  | 10 :: rest => some ([], rest)
  | b :: rest => (splitLine rest).map fun (line, rest) => (b :: line, rest)

/-- The status that the first line of an answer names. -/
def statusOf (line : String) : Option Nat :=
  let cs := line.toList
  if "HTTP/1.".toList.isPrefixOf cs then
    Decimal.numberIn? 10 (((cs.dropWhile (· ≠ ' ')).drop 1).takeWhile (· ≠ ' '))
  else none

/-- The name and value of a header line. -/
def headerOf (line : String) : String × String :=
  let cs := line.toList
  (String.ofList ((cs.takeWhile (· ≠ ':')).map Char.toLower),
    headerArrives (String.ofList ((cs.dropWhile (· ≠ ':')).drop 1)))

/-- Header lines up to the blank one, and what follows it. The fuel is the number of bytes. -/
def readHeaders : Nat → List UInt8 → Option (List (String × String) × List UInt8)
  | 0, _ => none
  | fuel + 1, bs => do
      let (line, rest) ← splitLine bs
      if line = [] then return ([], rest)
      let (headers, rest) ← readHeaders fuel rest
      return (headerOf (Text.lossyText line) :: headers, rest)

/-- A body in chunks, and whether it came to its end. The fuel is the number of bytes. -/
def readChunks : Nat → List UInt8 → List UInt8 × Bool
  | 0, _ => ([], false)
  | fuel + 1, bs =>
      match splitLine bs with
      | none => ([], false)
      | some (line, rest) =>
          let digits := (Text.lossyText line).toList.takeWhile fun c =>
            (Decimal.digitIn? 16 c).isSome
          match Decimal.numberIn? 16 digits with
          | none => ([], false)
          | some 0 => ([], true)
          | some size =>
              let chunk := rest.take size
              if chunk.length < size then (chunk, false)
              else
                let after := ((splitLine (rest.drop size)).map (·.2)).getD []
                let (more, complete) := readChunks fuel after
                (chunk ++ more, complete)

/-- A body, and whether all of it is there: in chunks, of the length that is told, or up to the
end of the connection. -/
def readBody (headers : List (String × String)) (bs : List UInt8) : List UInt8 × Bool :=
  let value? := fun (name : String) => (headers.find? (·.1 == name)).map (·.2)
  if value? "transfer-encoding" = some "chunked" then readChunks (bs.length + 1) bs
  else
    match (value? "content-length").bind fun s => Decimal.numberIn? 10 s.toList with
    | none => (bs, true)
    | some length => (bs.take length, length ≤ bs.length)

/-- The answer that bytes are. -/
def ofBytes? (bs : List UInt8) : Option Answer := do
  let (line, rest) ← splitLine bs
  let status ← statusOf (Text.lossyText line)
  let (headers, rest) ← readHeaders (rest.length + 1) rest
  let (body, complete) := readBody headers rest
  return { status, headers, body, complete }

end Answer

end NetConsole
