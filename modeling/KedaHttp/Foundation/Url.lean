import KedaHttp.Foundation.GoStrings

/-!
# URLs

The parts of Go's `net/url` that a proxy depends on: `Parse` with its grammar of authorities, and
the two forms in which a URL keeps its path. Texts are lists of characters, each of which stands
for a byte.

`parse_http` says what becomes of a text that consists of a scheme and an authority. The authority
is cut at delimiters only: whatever else is pasted into it ends up in the host, or is refused.
-/

namespace KedaHttp.Foundation

abbrev Text := List Char

/-- `strings.Cut`, with the text after the separator if there is one. -/
def cut (sep : Char) (text : Text) : Text × Option Text :=
  match text.dropWhile (· ≠ sep) with
  | [] => (text, none)
  | _ :: rest => (text.takeWhile (· ≠ sep), some rest)

/-- The texts on both sides of the last separator, if there is one. -/
def cutLast (sep : Char) (text : Text) : Option (Text × Text) :=
  match text.reverse.dropWhile (· ≠ sep) with
  | [] => none
  | _ :: rest => some (rest.reverse, (text.reverse.takeWhile (· ≠ sep)).reverse)

/-- The text up to the first occurrence of a mark, and the text from there on. -/
def cutBefore (mark : Text) : Text → Option (Text × Text)
  | [] => none
  | char :: rest =>
      if mark.isPrefixOf (char :: rest) then some ([], char :: rest)
      else (cutBefore mark rest).map fun (before, after) => (char :: before, after)

theorem cut_of_notMem {sep : Char} {text : Text} (absent : sep ∉ text) :
    cut sep text = (text, none) := by
  have nothing : text.dropWhile (· ≠ sep) = [] :=
    List.dropWhile_eq_nil_iff.mpr (ne_of_notMem absent)
  simp only [cut, nothing]

theorem cutLast_of_notMem {sep : Char} {text : Text} (absent : sep ∉ text) :
    cutLast sep text = none := by
  have absentReversed : sep ∉ text.reverse := fun member => absent (List.mem_reverse.mp member)
  have nothing : text.reverse.dropWhile (· ≠ sep) = [] :=
    List.dropWhile_eq_nil_iff.mpr (ne_of_notMem absentReversed)
  simp only [cutLast, nothing]

theorem cutLast_append {sep : Char} (left : Text) {right : Text} (absent : sep ∉ right) :
    cutLast sep (left ++ sep :: right) = some (left, right) := by
  have absentReversed : sep ∉ right.reverse := fun member => absent (List.mem_reverse.mp member)
  have others := ne_of_notMem absentReversed
  have reversed : (left ++ sep :: right).reverse = right.reverse ++ sep :: left.reverse := by simp
  rw [cutLast, reversed, List.dropWhile_append_of_pos others, List.takeWhile_append_of_pos others]
  simp

/-- The parts of a URL, each with its own characters to escape. -/
inductive Encoding where
  | path
  | host
  | zone
  | userPassword
  | fragment
  deriving DecidableEq, Repr

def reserved : Text := "$&+,/:;=?@".toList

def shouldEscape (mode : Encoding) (char : Char) : Bool :=
  if char.isAlphanum then false
  else if (mode = .host ∨ mode = .zone) ∧ char ∈ "!$&'()*+,;=:[]<>\"".toList then false
  else if char ∈ "-_.~".toList then false
  else
    match mode with
    | .path => !reserved.contains char || char = '?'
    | .userPassword => !reserved.contains char || "@/?:".toList.contains char
    | .fragment => !reserved.contains char && !"!()*".toList.contains char
    -- No case of Go's `switch` is for hosts, so that they escape what is left.
    | .host | .zone => true

def upperhex (digit : ℕ) : Char := "0123456789ABCDEF".toList.getD digit '0'

def escape (mode : Encoding) (text : Text) : Text :=
  text.flatMap fun char =>
    if shouldEscape mode char then
      ['%', upperhex (char.toNat / 16), upperhex (char.toNat % 16)]
    else [char]

def ishex (char : Char) : Bool :=
  char.isDigit || "abcdefABCDEF".toList.contains char

def unhex (char : Char) : ℕ :=
  if char.isDigit then char.toNat - '0'.toNat
  else if char.isLower then char.toNat - 'a'.toNat + 10
  else char.toNat - 'A'.toNat + 10

def escapeError (text : Text) : String :=
  "invalid URL escape " ++ (String.ofList (text.take 3)).quote

def invalidHostError (char : Char) : String :=
  "invalid character " ++ (String.singleton char).quote ++ " in host name"

/-- The escapes that a host or the zone of an address must not contain. -/
def badEscape (mode : Encoding) (high low : Char) : Bool :=
  if [high, low] = ['2', '5'] then false
  else
    match mode with
    | .host => decide (unhex high < 8)
    | .zone =>
        let byte := Char.ofNat (16 * unhex high + unhex low)
        byte != ' ' && shouldEscape .host byte
    | _ => false

def unescape (mode : Encoding) : Text → Except String Text
  | [] => .ok []
  | char :: rest =>
      if char = '%' then
        match rest with
        | high :: low :: rest =>
            if !ishex high || !ishex low || badEscape mode high low then
              .error (escapeError ['%', high, low])
            else
              (unescape mode rest).map (Char.ofNat (16 * unhex high + unhex low) :: ·)
        | _ => .error (escapeError (char :: rest))
      else if (mode = .host ∨ mode = .zone) ∧ char.toNat < 0x80 ∧ shouldEscape mode char = true then
        .error (invalidHostError char)
      else (unescape mode rest).map (char :: ·)

theorem unescape_cons_of_kept {char : Char} (notPercent : char ≠ '%')
    (kept : shouldEscape .host char = false) (rest : Text) :
    unescape .host (char :: rest) = (unescape .host rest).map (char :: ·) := by
  rw [unescape.eq_def]
  simp [notPercent, kept]

/-- Characters that stand in a host for themselves. -/
def Plain (text : Text) : Prop := ∀ char ∈ text, char ≠ '%' ∧ shouldEscape .host char = false

-- Named, as the instance for statements about all characters would go through all of them.
instance (text : Text) : Decidable (Plain text) := List.decidableBAll _ text

theorem unescape_append {left : Text} (plain : Plain left) (right : Text) :
    unescape .host (left ++ right) = (unescape .host right).map (left ++ ·) := by
  induction left with
  | nil => cases h : unescape .host right <;> simp [h, Except.map]
  | cons char left ih =>
      rcases plain char List.mem_cons_self with ⟨notPercent, kept⟩
      have rest := ih fun other member => plain other (List.mem_cons_of_mem _ member)
      rw [List.cons_append, unescape_cons_of_kept notPercent kept, rest]
      cases unescape .host right <;> simp [Except.map]

theorem unescape_of_plain {text : Text} (plain : Plain text) : unescape .host text = .ok text := by
  simpa [unescape, Except.map] using unescape_append plain []

def validEncoded (mode : Encoding) (text : Text) : Bool :=
  text.all fun char => "!$&'()*+,;=:@[]%".toList.contains char || !shouldEscape mode char

structure Userinfo where
  username : Text
  password : Option Text
  deriving DecidableEq, Repr

structure Url where
  scheme : Text := []
  opaqueData : Text := []
  user : Option Userinfo := none
  host : Text := []
  path : Text := []
  rawPath : Text := []
  omitHost : Bool := false
  forceQuery : Bool := false
  rawQuery : Text := []
  fragment : Text := []
  rawFragment : Text := []
  deriving DecidableEq, Repr

namespace Url

/-- Keeps the text of a path only if it is not how the path is escaped by default. -/
def setPath (u : Url) (p : Text) : Except String Url :=
  (unescape .path p).map fun path =>
    { u with path := path, rawPath := if p = escape .path path then [] else p }

@[inherit_doc setPath]
def setFragment (u : Url) (f : Text) : Except String Url :=
  (unescape .fragment f).map fun fragment =>
    { u with
      fragment := fragment
      rawFragment := if f = escape .fragment fragment then [] else f }

def escapedPath (u : Url) : Text :=
  if u.rawPath ≠ [] ∧ validEncoded .path u.rawPath = true ∧
      (unescape .path u.rawPath).toOption = some u.path then u.rawPath
  else if u.path = ['*'] then ['*']
  else escape .path u.path

/-- What `setPath` leaves: the decoded path, and its text unless that is the default encoding. -/
theorem of_setPath {base u : Url} {p : Text} (parsed : base.setPath p = .ok u) :
    unescape .path p = .ok u.path ∧ u.rawPath = if p = escape .path u.path then [] else p := by
  rw [setPath] at parsed
  cases decoded : unescape .path p with
  | error err => simp [decoded, Except.map] at parsed
  | ok path =>
      simp only [decoded, Except.map, Except.ok.injEq] at parsed
      rw [← parsed]
      exact ⟨rfl, rfl⟩

/-- Without a raw path, the decoded path is escaped by default. -/
theorem escapedPath_of_rawPath_nil {u : Url} (unset : u.rawPath = []) :
    u.escapedPath = if u.path = ['*'] then ['*'] else escape .path u.path := by
  simp [escapedPath, unset]

/-- A path that came in another encoding keeps it if that is a valid one. -/
theorem escapedPath_of_setPath {base u : Url} {p : Text} (parsed : base.setPath p = .ok u)
    (other : p ≠ escape .path u.path) :
    u.escapedPath =
      if validEncoded .path p then p
      else if u.path = ['*'] then ['*'] else escape .path u.path := by
  rcases of_setPath parsed with ⟨decoded, rawPath⟩
  rw [if_neg other] at rawPath
  have nonempty : p ≠ [] := by
    rintro rfl
    rw [unescape, Except.ok.injEq] at decoded
    rw [← decoded] at other
    exact other rfl
  simp [escapedPath, rawPath, nonempty, decoded, Except.toOption]

def validOptionalPort : Text → Bool
  | [] => true
  | char :: port => char = ':' && port.all Char.isDigit

/-- `splitHostPort`, for `Hostname` and `Port`. -/
def splitHostPort (hostPort : Text) : Text × Text :=
  let (host, port) :=
    match cutLast ':' hostPort with
    | some (host, port) => if validOptionalPort (':' :: port) then (host, port) else (hostPort, [])
    | none => (hostPort, [])
  if host.head? = some '[' ∧ host.getLast? = some ']' then (host.tail.dropLast, port)
  else (host, port)

def hostname (u : Url) : Text := (splitHostPort u.host).1

def port (u : Url) : Text := (splitHostPort u.host).2

def invalidPort (colonPort : Text) : String :=
  "invalid port " ++ (String.ofList colonPort).quote ++ " after host"

def parseHost (host : Text) : Except String Text :=
  if host.head? = some '[' then
    match cutLast ']' host with
    | none => .error "missing ']' in host"
    | some (address, colonPort) =>
        if validOptionalPort colonPort then
          match cutBefore "%25".toList address with
          | none => unescape .host host
          | some (address, zone) => do
              let host1 ← unescape .host address
              let host2 ← unescape .zone zone
              let host3 ← unescape .host (']' :: colonPort)
              return host1 ++ host2 ++ host3
        else .error (invalidPort colonPort)
  else
    match cutLast ':' host with
    | none => unescape .host host
    | some (_, port) =>
        if validOptionalPort (':' :: port) then unescape .host host
        else .error (invalidPort (':' :: port))

def validUserinfo (userinfo : Text) : Bool :=
  userinfo.all fun char => char.isAlphanum || "-._:~!$&'()*+,;=%@".toList.contains char

def parseUserinfo (userinfo : Text) : Except String Userinfo :=
  if validUserinfo userinfo then
    match cut ':' userinfo with
    | (username, none) => do
        let username ← unescape .userPassword username
        return ⟨username, none⟩
    | (username, some password) => do
        let username ← unescape .userPassword username
        let password ← unescape .userPassword password
        return ⟨username, some password⟩
  else .error "net/url: invalid userinfo"

def parseAuthority (authority : Text) : Except String (Option Userinfo × Text) :=
  match cutLast '@' authority with
  | none => do
      let host ← parseHost authority
      return (none, host)
  | some (userinfo, host) => do
      let host ← parseHost host
      let user ← parseUserinfo userinfo
      return (some user, host)

/-- The loop of `getScheme`, with the characters read so far in reverse. -/
def getSchemeLoop (rawURL : Text) : Text → Text → Except String (Text × Text)
  | _, [] => .ok ([], rawURL)
  | read, char :: rest =>
      if char.isAlpha then getSchemeLoop rawURL (char :: read) rest
      else if char.isDigit || "+-.".toList.contains char then
        if read = [] then .ok ([], rawURL) else getSchemeLoop rawURL (char :: read) rest
      else if char = ':' then
        if read = [] then .error "missing protocol scheme" else .ok (read.reverse, rest)
      else .ok ([], rawURL)

def getScheme (rawURL : Text) : Except String (Text × Text) := getSchemeLoop rawURL [] rawURL

def isCTL (char : Char) : Bool := char.toNat < 0x20 || char.toNat = 0x7f

theorem isCTL_of_isAlphanum {char : Char} (alphanum : char.isAlphanum = true) :
    isCTL char = false := by
  change ((decide (65 ≤ char.val ∧ char.val ≤ 90) ||
    decide (97 ≤ char.val) && decide (char.val ≤ 122)) ||
      decide (48 ≤ char.val) && decide (char.val ≤ 57)) = true at alphanum
  simp only [Bool.or_eq_true, Bool.and_eq_true, decide_eq_true_eq,
    UInt32.le_iff_toNat_le] at alphanum
  change ((65 ≤ char.toNat ∧ char.toNat ≤ 90) ∨ (97 ≤ char.toNat ∧ char.toNat ≤ 122)) ∨
    (48 ≤ char.toNat ∧ char.toNat ≤ 57) at alphanum
  simp only [isCTL, Bool.or_eq_false_iff, decide_eq_false_iff_not]
  omega

/-- The query of a URL, and whether the URL ends with the question mark of an empty one. -/
def cutQuery (rest : Text) : Text × Bool × Text :=
  match cut '?' rest with
  | (rest, none) => (rest, false, [])
  | (rest, some query) => (rest, query = [], query)

/-- What follows the scheme, from the authority on. -/
def parseHierarchy (url : Url) (rest : Text) : Except String Url :=
  if "//".toList.isPrefixOf rest ∧ (url.scheme ≠ [] ∨ ¬"///".toList.isPrefixOf rest) then do
    let authority := (rest.drop 2).takeWhile (· ≠ '/')
    let (user, host) ← parseAuthority authority
    setPath { url with user := user, host := host } ((rest.drop 2).dropWhile (· ≠ '/'))
  else
    setPath { url with omitHost := url.scheme ≠ [] ∧ rest.head? = some '/' } rest

/-- `parse` for URLs that do not come from a request line. -/
def parseWithoutFragment (rawURL : Text) : Except String Url :=
  if rawURL.any isCTL then .error "net/url: invalid control character in URL"
  else if rawURL = ['*'] then .ok { path := ['*'] }
  else do
    let (scheme, rest) ← getScheme rawURL
    let (rest, forceQuery, rawQuery) := cutQuery rest
    let url : Url :=
      { scheme := scheme.map Char.toLower, forceQuery := forceQuery, rawQuery := rawQuery }
    if rest.head? ≠ some '/' ∧ url.scheme ≠ [] then return { url with opaqueData := rest }
    else if rest.head? ≠ some '/' ∧ ':' ∈ rest.takeWhile (· ≠ '/') then
      .error "first path segment in URL cannot contain colon"
    else parseHierarchy url rest

/-- `Parse`, where the error does not repeat the text that is parsed. -/
def parseText (rawURL : Text) : Except String Url :=
  match cut '#' rawURL with
  | (u, none) => parseWithoutFragment u
  | (u, some frag) => do
      let url ← parseWithoutFragment u
      if frag = [] then return url else url.setFragment frag

def parse (rawURL : String) : Except String Url := parseText rawURL.toList

section HostPort

variable {name port : Text}

private theorem head_append_ne_bracket (noBracket : '[' ∉ name) :
    (name ++ ':' :: port).head? ≠ some '[' := by
  cases name with
  | nil => simp
  | cons char name =>
      rw [List.cons_append, List.head?_cons, ne_eq, Option.some.injEq]
      exact fun same => noBracket (same ▸ List.mem_cons_self)

theorem plain_colon : Plain [':'] := by decide

theorem plain_digits (digits : port.all Char.isDigit = true) : Plain port := by
  intro char member
  have digit := List.all_eq_true.mp digits char member
  refine ⟨?_, ?_⟩
  · rintro rfl
    simp at digit
  · simp [shouldEscape, Char.isAlphanum, digit]

/-- What follows a name and a colon cannot change the name. -/
theorem exists_of_parseHost (plain : Plain name) (noBracket : '[' ∉ name) {host : Text}
    (parsed : parseHost (name ++ ':' :: port) = .ok host) : ∃ rest, host = name ++ ':' :: rest := by
  have decoded : unescape .host (name ++ ([':'] ++ port)) = .ok host := by
    rw [parseHost, if_neg (head_append_ne_bracket noBracket)] at parsed
    split at parsed
    · exact parsed
    · split at parsed
      · exact parsed
      · simp at parsed
  rw [unescape_append plain, unescape_append plain_colon] at decoded
  cases rest : unescape .host port with
  | error err => simp [rest, Except.map] at decoded
  | ok rest' =>
      simp only [rest, Except.map, Except.ok.injEq] at decoded
      exact ⟨rest', decoded.symm⟩

/-- After the only colon, a host has a port of digits. -/
theorem parseHost_append (plain : Plain name) (noBracket : '[' ∉ name) (single : ':' ∉ port) :
    parseHost (name ++ ':' :: port) =
      if port.all Char.isDigit then .ok (name ++ ':' :: port)
      else .error (invalidPort (':' :: port)) := by
  rw [parseHost, if_neg (head_append_ne_bracket noBracket), cutLast_append name single]
  by_cases digits : port.all Char.isDigit = true
  · have rest : unescape .host ([':'] ++ port) = .ok (':' :: port) := by
      rw [unescape_append plain_colon, unescape_of_plain (plain_digits digits)]
      rfl
    have whole : unescape .host (name ++ ':' :: port) = .ok (name ++ ':' :: port) := by
      rw [unescape_append plain, ← List.singleton_append, rest]
      rfl
    simp [validOptionalPort, digits, whole]
  · simp [validOptionalPort, digits]

theorem splitHostPort_append (noBracket : '[' ∉ name) (single : ':' ∉ port)
    (digits : port.all Char.isDigit = true) :
    splitHostPort (name ++ ':' :: port) = (name, port) := by
  have head : name.head? ≠ some '[' := fun first => noBracket (List.mem_of_mem_head? first)
  simp only [splitHostPort, cutLast_append name single, validOptionalPort, digits, decide_true,
    Bool.and_self, if_true, head, false_and, if_false]

end HostPort

/-- Characters that neither end an authority or its user information nor are refused anywhere. -/
def Undelimited (text : Text) : Prop := ∀ char ∈ text, char ∉ "/?#@".toList ∧ isCTL char = false

theorem undelimited_append {left right : Text} :
    Undelimited (left ++ right) ↔ Undelimited left ∧ Undelimited right := by
  simp only [Undelimited, List.forall_mem_append]

instance (text : Text) : Decidable (Undelimited text) := List.decidableBAll _ text

/-- Letters and digits neither end an authority nor are they refused. -/
theorem undelimited_of_isAlphanum {text : Text} (alphanum : text.all Char.isAlphanum = true) :
    Undelimited text := by
  have refused : "/?#@".toList.any Char.isAlphanum = false := by decide
  intro char member
  have here := List.all_eq_true.mp alphanum char member
  refine ⟨?_, isCTL_of_isAlphanum here⟩
  intro special
  exact List.any_eq_false.mp refused char special here

theorem getScheme_http (rest : Text) :
    getScheme ("http:".toList ++ rest) = .ok ("http".toList, rest) := by
  have letters : "http:".toList = ['h', 't', 't', 'p', ':'] := by decide
  rw [letters]
  simp [getScheme, getSchemeLoop]

theorem parseAuthority_of_undelimited {authority : Text} (undelimited : Undelimited authority) :
    parseAuthority authority = (parseHost authority).map fun host => (none, host) := by
  have noUser : '@' ∉ authority := fun member => (undelimited _ member).1 (by decide)
  rw [parseAuthority, cutLast_of_notMem noUser]
  cases parseHost authority <;> rfl

theorem parseHierarchy_of_undelimited {authority : Text} (undelimited : Undelimited authority)
    (url : Url) (hasScheme : url.scheme ≠ []) :
    parseHierarchy url ("//".toList ++ authority) =
      (parseHost authority).map fun host =>
        { url with user := none, host := host, path := [], rawPath := [] } := by
  have absent : '/' ∉ authority := fun member => (undelimited _ member).1 (by decide)
  have noSlash := ne_of_notMem absent
  have slashes : "//".toList = ['/', '/'] := by decide
  have whole : authority.takeWhile (· ≠ '/') = authority :=
    List.takeWhile_eq_self_iff.mpr noSlash
  have nothing : authority.dropWhile (· ≠ '/') = [] :=
    List.dropWhile_eq_nil_iff.mpr noSlash
  rw [parseHierarchy, slashes, if_pos (by simp [hasScheme])]
  simp only [List.cons_append, List.nil_append, List.drop_succ_cons, List.drop_zero, whole,
    nothing, parseAuthority_of_undelimited undelimited]
  cases parseHost authority <;> rfl

/-- The authority of an `http` URL without path and query is its host. -/
theorem parse_http {authority : Text} (undelimited : Undelimited authority) :
    parseText ("http://".toList ++ authority) =
      (parseHost authority).map fun host => { scheme := "http".toList, host := host } := by
  have absent : ∀ char ∈ "/?#@".toList, char ∉ authority := fun char special member =>
    (undelimited char member).1 special
  have pieces : "http://".toList = "http:".toList ++ "//".toList := by decide
  have fragment : '#' ∉ "http://".toList ++ authority := by
    rw [List.mem_append, not_or]
    exact ⟨by decide, absent '#' (by decide)⟩
  have query : '?' ∉ "//".toList ++ authority := by
    rw [List.mem_append, not_or]
    exact ⟨by decide, absent '?' (by decide)⟩
  have controls : ("http://".toList ++ authority).any isCTL = false := by
    rw [List.any_append, Bool.or_eq_false_iff]
    refine ⟨by decide, ?_⟩
    rw [List.any_eq_false]
    intro char member
    simp [(undelimited char member).2]
  have long : "http://".toList ++ authority ≠ ['*'] := by
    intro same
    have lengths := congrArg List.length same
    simp at lengths
  have noQuery : cutQuery ("//".toList ++ authority) = ("//".toList ++ authority, false, []) := by
    rw [cutQuery, cut_of_notMem query]
  have rooted : ("//".toList ++ authority).head? = some '/' := by rfl
  have lower : "http".toList.map Char.toLower = "http".toList := by decide
  rw [parseText, cut_of_notMem fragment]
  simp only [parseWithoutFragment, controls, long, Bool.false_eq_true, if_false]
  rw [pieces, List.append_assoc, getScheme_http]
  simp only [bind, Except.bind, noQuery, rooted, ne_eq, not_true_eq_false, false_and, if_false,
    lower]
  rw [parseHierarchy_of_undelimited undelimited _ (by decide)]

end Url

end KedaHttp.Foundation
