import KedaHttp.Foundation.JsonTypes
import KedaHttp.Foundation.UrlString
import KedaHttp.Queue.Memory

/-!
# The counts of a queue over HTTP

`pkg/queue/queue_counts.go` and `pkg/queue/queue_rpc.go`: an interceptor answers on its route
`/queue` with the current counts as JSON, and the scaler decodes them from there.

The network is given by what answers at an address, for each path. A response is its status and
the text of its body. A route's write to the connection is taken to succeed. The messages of the
JSON decoder are left open.
-/

namespace KedaHttp.Queue

open KedaHttp.Foundation

/-- The size of Go's `int`. -/
def intBits : ℕ := 64

namespace Counts

def marshalJSON (counts : GoMap String Int) : Json := Json.encodeMap Json.encodeInt counts

/-- A nil map is read like an empty one. -/
def unmarshalJSON (data : Json) : Option (GoMap String Int) :=
  (Json.decodeMap (Json.decodeInt intBits 0) data).map fun counts => counts.getD ∅

/-- The counts that fit into Go's `int`. -/
def Representable (counts : GoMap String Int) : Prop :=
  ∀ host count, counts.lookup host = some count → Json.InRange intBits count

theorem representable_empty : Representable ∅ := by
  intro host count found
  simp at found

theorem representable_insert {counts : GoMap String Int} (fits : Representable counts)
    (host : String) {count : Int} (inRange : Json.InRange intBits count) :
    Representable (counts.insert host count) := by
  intro other held found
  rw [GoMap.lookup_insert_ite] at found
  split at found
  · rw [← Option.some.inj found]
    exact inRange
  · exact fits other held found

theorem writable_marshalJSON (counts : GoMap String Int) :
    Json.Writable Json.maxNestingDepth (marshalJSON counts) :=
  Json.writable_encodeMap fun _ count _ => .number (Json.isLiteral_formatInt count)

theorem unmarshalJSON_marshalJSON {counts : GoMap String Int} (fits : Representable counts) :
    unmarshalJSON (marshalJSON counts) = some counts := by
  rw [unmarshalJSON, marshalJSON, Json.decodeMap_encodeMap, Option.map_some, Option.getD_some]
  intro host count held
  exact Json.parseInt_formatInt (fits host count held)

end Counts

structure Response where
  status : ℕ
  body : List Char

def countsPath : Text := "/queue".toList

/-- The handler of the route, given what the queue's `Current` returns. -/
def newSizeHandler : Except String (GoMap String Int) → Response
  | .error _ => ⟨500, "error getting queue size".toList⟩
  | .ok cur => ⟨200, (Counts.marshalJSON cur).print ++ ['\n']⟩

/-- What answers at an address, for the path of a request. -/
abbrev Network := String → Text → Except String Response

/-- `Client.Get`. -/
def httpGet (network : Network) (rawURL : Text) : Except String Response :=
  let quoted := (String.ofList rawURL).quote
  match Url.parseText rawURL with
  | .error err => .error ("parse " ++ quoted ++ ": " ++ err)
  | .ok url =>
      match network url.dialAddress url.escapedPath with
      | .error err => .error ("Get " ++ quoted ++ ": " ++ err)
      | .ok response => .ok response

section Client

-- The message of the decoder for a body that it refuses.
variable (describe : List Char → String) (network : Network)

/-- The status of the response is not looked at. -/
def getCounts (interceptorURL : Url) : Except String (GoMap String Int) :=
  let url := ({ interceptorURL with path := countsPath } : Url).string
  match httpGet network url with
  | .error err =>
      .error ("requesting the queue counts from " ++ String.ofList url ++ ": " ++ err)
  | .ok resp =>
      match (Json.decode resp.body).bind Counts.unmarshalJSON with
      | some counts => .ok counts
      | none =>
          .error ("decoding response from the interceptor at " ++ String.ofList url ++ ": " ++
            describe resp.body)

theorem plainPath_countsPath : Url.PlainPath countsPath := by
  have exposed : countsPath = '/' :: "queue".toList := by decide
  rw [exposed]
  exact Url.plainPath_segment (by decide)

variable {describe network} {ip : IP} {port : Text}

/-- The request goes to the very address, be it IPv4 or IPv6, and to the route of the counts. -/
theorem httpGet_address (digits : port.all Char.isDigit = true) (nonempty : port ≠ [])
    {response : Response}
    (answers : network (joinHostPort ip.string (String.ofList port)) countsPath = .ok response) :
    httpGet network (Url.http (Url.addressHost ip port) countsPath).string = .ok response := by
  have text := Url.string_http (Url.plain_addressHost ip digits) (by simp [Url.addressHost])
    plainPath_countsPath
  have parsed := Url.parse_http_path (Url.undelimited_addressHost ip digits) plainPath_countsPath
  rw [Url.parseHost_addressHost ip digits] at parsed
  simp only [httpGet, text, parsed, Except.map, Url.dialAddress_addressHost ip digits nonempty,
    Url.escapedPath_http plainPath_countsPath, answers]

theorem decode_newSizeHandler {cur : GoMap String Int} (fits : Counts.Representable cur) :
    (Json.decode (newSizeHandler (.ok cur)).body).bind Counts.unmarshalJSON = some cur := by
  rw [newSizeHandler, Json.decode_print (Counts.writable_marshalJSON cur), Option.bind_some,
    Counts.unmarshalJSON_marshalJSON fits]
  intro literal isNumber
  simp [Counts.marshalJSON, Json.encodeMap] at isNumber

theorem decode_newSizeHandler_error (err : String) :
    (Json.decode (newSizeHandler (.error err)).body).bind Counts.unmarshalJSON = none := by
  have exposed : (newSizeHandler (.error err)).body =
      'e' :: "rror getting queue size".toList := by
    rw [newSizeHandler]
    decide
  have refused : ∀ rest, Json.decode ('e' :: rest) = none := by
    intro rest
    rw [Json.decode, Json.readValue_cons (by decide)]
    simp [Json.readKeyword]
  rw [exposed, refused, Option.bind_none]

section Served

variable (digits : port.all Char.isDigit = true) (nonempty : port ≠ [])

include digits nonempty

theorem getCounts_of_serves {cur : GoMap String Int} (fits : Counts.Representable cur)
    (serves : network (joinHostPort ip.string (String.ofList port)) countsPath =
      .ok (newSizeHandler (.ok cur))) :
    getCounts describe network (Url.http (Url.addressHost ip port) []) = .ok cur := by
  have sameURL : ({ Url.http (Url.addressHost ip port) [] with path := countsPath } : Url) =
      Url.http (Url.addressHost ip port) countsPath := rfl
  have response := httpGet_address digits nonempty serves
  simp only [getCounts, sameURL, response, decode_newSizeHandler fits]

theorem getCounts_of_fails {err : String}
    (serves : network (joinHostPort ip.string (String.ofList port)) countsPath =
      .ok (newSizeHandler (.error err))) :
    ∃ message, getCounts describe network (Url.http (Url.addressHost ip port) []) =
      .error message := by
  have sameURL : ({ Url.http (Url.addressHost ip port) [] with path := countsPath } : Url) =
      Url.http (Url.addressHost ip port) countsPath := rfl
  have response := httpGet_address digits nonempty serves
  simp only [getCounts, sameURL, response, decode_newSizeHandler_error]
  exact ⟨_, rfl⟩

/--
An interceptor that serves the counts of its queue at an address of either family is asked there,
and its counts arrive unchanged, for hosts with any names. The caller gets an error, and no counts,
exactly if the interceptor's queue fails to tell them.
-/
theorem getCounts_newSizeHandler {current : Except String (GoMap String Int)}
    (fits : ∀ cur, current = .ok cur → Counts.Representable cur)
    (serves : network (joinHostPort ip.string (String.ofList port)) countsPath =
      .ok (newSizeHandler current)) (counts : GoMap String Int) :
    getCounts describe network (Url.http (Url.addressHost ip port) []) = .ok counts ↔
      current = .ok counts := by
  cases current with
  | error err =>
      rcases @getCounts_of_fails describe _ _ _ digits nonempty _ serves with ⟨message, fails⟩
      simp [fails]
  | ok cur => simp [getCounts_of_serves digits nonempty (fits cur rfl) serves]

end Served

end Client

/-- A host whose name has to be escaped, asked for at an IPv6 address. -/
theorem getCounts_newSizeHandler_escaped :
    let cur := (∅ : GoMap String Int).insert "a\"<b>\n" (-3)
    let ip : IP := ⟨[0x20, 0x01, 0x0d, 0xb8, 0, 0, 0, 1, 0, 0, 0, 0, 0, 0, 0, 0x2a], by decide⟩
    getCounts (fun _ => "") (fun _ _ => .ok (newSizeHandler (.ok cur)))
      (Url.http (Url.addressHost ip "9090".toList) []) = .ok cur := by
  intro cur ip
  refine (getCounts_newSizeHandler (by decide) (by decide) ?_ rfl cur).mpr rfl
  rintro _ ⟨⟩
  exact Counts.representable_insert Counts.representable_empty _ (by decide)

end KedaHttp.Queue
