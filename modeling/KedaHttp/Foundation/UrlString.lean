import KedaHttp.Foundation.NetAddr
import KedaHttp.Foundation.Url

/-!
# The texts of URLs

`URL.String` of Go's `net/url`, and the address that an HTTP client dials for a URL. A client is
given a text and parses it again, so that an address has to survive both ways.
-/

namespace KedaHttp.Foundation

def Userinfo.string (user : Userinfo) : Text :=
  escape .userPassword user.username ++
    match user.password with
    | none => []
    | some password => ':' :: escape .userPassword password

namespace Url

def escapedFragment (u : Url) : Text :=
  if u.rawFragment ≠ [] ∧ validEncoded .fragment u.rawFragment = true ∧
      (unescape .fragment u.rawFragment).toOption = some u.fragment then u.rawFragment
  else escape .fragment u.fragment

/-- What stands between the scheme and the path. -/
def authority (u : Url) : Text :=
  if (u.scheme ≠ [] ∨ u.host ≠ [] ∨ u.user ≠ none) ∧
      ¬(u.omitHost ∧ u.host = [] ∧ u.user = none) then
    (if u.host ≠ [] ∨ u.path ≠ [] ∨ u.user ≠ none then ['/', '/'] else []) ++
      (u.user.map fun user => user.string ++ ['@']).getD [] ++ escape .host u.host
  else []

/-- The path with the marks that keep it from being read as something else. -/
def rootedPath (u : Url) : Text :=
  let path := u.escapedPath
  (if path ≠ [] ∧ path.head? ≠ some '/' ∧ u.host ≠ [] then ['/'] else []) ++
    (if u.scheme = [] ∧ u.authority = [] ∧ ':' ∈ path.takeWhile (· ≠ '/') then ['.', '/']
      else []) ++ path

/-- `URL.String`. -/
def string (u : Url) : Text :=
  (if u.scheme ≠ [] then u.scheme ++ [':'] else []) ++
    (if u.opaqueData ≠ [] then u.opaqueData else u.authority ++ u.rootedPath) ++
    (if u.forceQuery ∨ u.rawQuery ≠ [] then '?' :: u.rawQuery else []) ++
    (if u.fragment ≠ [] then '#' :: u.escapedFragment else [])

/-- The address that an HTTP client connects to, in the form of `JoinHostPort`. -/
def dialAddress (u : Url) : String :=
  joinHostPort (String.ofList u.hostname)
    (if u.port = [] then (if u.scheme = "https".toList then "443" else "80")
      else String.ofList u.port)

/-- Paths that start at the root and have nothing to escape. -/
structure PlainPath (path : Text) : Prop where
  rooted : path.head? = some '/'
  escaped : escape .path path = path
  unescaped : unescape .path path = .ok path
  undelimited : ∀ char ∈ path, char ∉ "?#".toList ∧ isCTL char = false

theorem escape_of_plain {host : Text} (plain : Plain host) : escape .host host = host := by
  rw [escape]
  induction host with
  | nil => rfl
  | cons char host ih =>
      rw [Plain, List.forall_mem_cons] at plain
      rw [List.flatMap_cons, ih plain.2]
      simp [plain.1.2]

/-- A single segment of letters and digits. -/
theorem plainPath_segment {segment : Text} (alphanum : segment.all Char.isAlphanum = true) :
    PlainPath ('/' :: segment) := by
  have slash : shouldEscape .path '/' = false := by decide
  rw [List.all_eq_true] at alphanum
  refine ⟨rfl, ?_, ?_, ?_⟩
  · have same : segment.flatMap (fun char => if shouldEscape .path char then
        ['%', upperhex (char.toNat / 16), upperhex (char.toNat % 16)] else [char]) = segment := by
      induction segment with
      | nil => rfl
      | cons char segment ih =>
          rw [List.forall_mem_cons] at alphanum
          rw [List.flatMap_cons, ih alphanum.2]
          simp [shouldEscape, alphanum.1]
    rw [escape, List.flatMap_cons, same, slash]
    rfl
  · have same : unescape .path segment = .ok segment := by
      induction segment with
      | nil => rfl
      | cons char segment ih =>
          rw [List.forall_mem_cons] at alphanum
          have noPercent : char ≠ '%' := by
            rintro rfl
            exact absurd alphanum.1 (by decide)
          rw [unescape.eq_def]
          simp [noPercent, ih alphanum.2, Except.map]
    rw [unescape.eq_def]
    simp [same, Except.map]
  · rw [List.forall_mem_cons]
    refine ⟨by decide, ?_⟩
    intro char member
    have refused : "?#".toList.any Char.isAlphanum = false := by decide
    refine ⟨?_, isCTL_of_isAlphanum (alphanum char member)⟩
    intro special
    exact List.any_eq_false.mp refused char special (alphanum char member)

section Http

variable {host path : Text}

/-- The `http` URL with a host and a path. -/
def http (host path : Text) : Url := { scheme := "http".toList, host := host, path := path }

theorem escapedPath_http (plainPath : PlainPath path) : (http host path).escapedPath = path := by
  rw [escapedPath_of_rawPath_nil rfl]
  change (if path = ['*'] then ['*'] else escape .path path) = path
  split
  · next star => exact star.symm
  · exact plainPath.escaped

theorem string_http (plain : Plain host) (nonempty : host ≠ []) (plainPath : PlainPath path) :
    (http host path).string = "http:".toList ++ ("//".toList ++ (host ++ path)) := by
  have scheme : "http:".toList = "http".toList ++ [':'] := by decide
  have slashes : "//".toList = ['/', '/'] := by decide
  have authority : (http host path).authority = ['/', '/'] ++ host := by
    simp [Url.authority, http, nonempty, escape_of_plain plain]
  have rooted : (http host path).rootedPath = path := by
    rw [rootedPath, escapedPath_http plainPath]
    simp [http, plainPath.rooted]
  rw [string, authority, rooted, scheme, slashes]
  simp [http]

/-- The authority of an `http` URL ends where its path begins. -/
theorem parseHierarchy_http (undelimited : Undelimited host) (plainPath : PlainPath path)
    (url : Url) (hasScheme : url.scheme ≠ []) :
    parseHierarchy url ("//".toList ++ (host ++ path)) =
      (parseHost host).map fun host =>
        { url with user := none, host := host, path := path, rawPath := [] } := by
  have absent : '/' ∉ host := fun member => (undelimited _ member).1 (by decide)
  have noSlash := ne_of_notMem absent
  have slashes : "//".toList = ['/', '/'] := by decide
  have stops : path.takeWhile (· ≠ '/') = [] ∧ path.dropWhile (· ≠ '/') = path := by
    cases path with
    | nil => exact ⟨rfl, rfl⟩
    | cons char path =>
        have slash := Option.some.inj plainPath.rooted
        subst slash
        exact ⟨rfl, rfl⟩
  have taken : (host ++ path).takeWhile (· ≠ '/') = host := by
    rw [List.takeWhile_append_of_pos noSlash, stops.1, List.append_nil]
  have left : (host ++ path).dropWhile (· ≠ '/') = path := by
    rw [List.dropWhile_append_of_pos noSlash, stops.2]
  have pathSet : ∀ base : Url,
      base.setPath path = .ok { base with path := path, rawPath := [] } := by
    intro base
    simp [setPath, plainPath.unescaped, plainPath.escaped, Except.map]
  rw [parseHierarchy, slashes, if_pos (by simp [hasScheme])]
  simp only [List.cons_append, List.nil_append, List.drop_succ_cons, List.drop_zero, taken, left,
    parseAuthority_of_undelimited undelimited, pathSet]
  cases parseHost host <;> rfl

/-- A text of an `http` URL is parsed into the URL, if its host is. -/
theorem parse_http_path (undelimited : Undelimited host) (plainPath : PlainPath path) :
    parseText ("http:".toList ++ ("//".toList ++ (host ++ path))) =
      (parseHost host).map fun host => http host path := by
  have absentHost : ∀ char ∈ "/?#@".toList, char ∉ host := fun char special member =>
    (undelimited char member).1 special
  have absentPath : ∀ char ∈ "?#".toList, char ∉ path := fun char special member =>
    (plainPath.undelimited char member).1 special
  have query : '?' ∉ "//".toList ++ (host ++ path) := by
    rw [List.mem_append, List.mem_append, not_or, not_or]
    exact ⟨by decide, absentHost '?' (by decide), absentPath '?' (by decide)⟩
  have fragment : '#' ∉ "http:".toList ++ ("//".toList ++ (host ++ path)) := by
    rw [List.mem_append, List.mem_append, List.mem_append, not_or, not_or, not_or]
    exact ⟨by decide, by decide, absentHost '#' (by decide), absentPath '#' (by decide)⟩
  have controls : ("http:".toList ++ ("//".toList ++ (host ++ path))).any isCTL = false := by
    rw [List.any_append, List.any_append, List.any_append, Bool.or_eq_false_iff,
      Bool.or_eq_false_iff, Bool.or_eq_false_iff]
    refine ⟨by decide, by decide, ?_, ?_⟩
    · rw [List.any_eq_false]
      intro char member
      simp [(undelimited char member).2]
    · rw [List.any_eq_false]
      intro char member
      simp [(plainPath.undelimited char member).2]
  have long : "http:".toList ++ ("//".toList ++ (host ++ path)) ≠ ['*'] := by
    intro same
    have lengths := congrArg List.length same
    simp at lengths
  have noQuery : cutQuery ("//".toList ++ (host ++ path)) =
      ("//".toList ++ (host ++ path), false, []) := by
    rw [cutQuery, cut_of_notMem query]
  have rooted : ("//".toList ++ (host ++ path)).head? = some '/' := by rfl
  have lower : "http".toList.map Char.toLower = "http".toList := by decide
  rw [parseText, cut_of_notMem fragment]
  simp only [parseWithoutFragment, controls, long, Bool.false_eq_true, if_false]
  rw [getScheme_http]
  simp only [bind, Except.bind, noQuery, rooted, ne_eq, not_true_eq_false, false_and, if_false,
    lower]
  rw [parseHierarchy_http undelimited plainPath _ (by decide)]
  rfl

end Http

end Url

section Addresses

theorem isAlphanum_of_mem_toDigits {n : ℕ} {char : Char} (member : char ∈ Nat.toDigits 16 n) :
    char.isAlphanum := by
  have digit : ∀ d < 16, (Nat.digitChar d).isAlphanum := by decide
  induction n using Nat.strongRecOn with
  | ind n ih =>
      by_cases small : n < 16
      · rw [Nat.toDigits_of_lt_base small, List.mem_singleton] at member
        rw [member]
        exact digit n small
      · rw [Nat.toDigits_of_base_le (by decide) (by omega), List.mem_append,
          List.mem_singleton] at member
        rcases member with high | rfl
        · exact ih (n / 16) (by omega) high
        · exact digit (n % 16) (by omega)

/-- Addresses are written with letters, digits, dots and colons. -/
theorem IP.mem_string {ip : IP} {char : Char} (member : char ∈ ip.string.toList) :
    char.isAlphanum ∨ char = '.' ∨ char = ':' := by
  by_contra other
  rw [not_or, not_or] at other
  rcases other with ⟨noAlphanum, noDot, noColon⟩
  have decimal : ∀ n, FreeOf char (formatUint 10 n) := by
    intro n held
    rw [formatUint, String.toList_ofList] at held
    have isDigit := Nat.isDigit_of_mem_toDigits (by decide) (by decide) held
    exact noAlphanum (by simp [Char.isAlphanum, isDigit])
  have hexadecimal : ∀ n, FreeOf char (formatUint 16 n) := by
    intro n held
    rw [formatUint, String.toList_ofList] at held
    exact noAlphanum (isAlphanum_of_mem_toDigits held)
  have dot : FreeOf char "." := by simpa [FreeOf] using noDot
  have colon : FreeOf char ":" := by simpa [FreeOf] using noColon
  have colons : FreeOf char "::" := by simpa [FreeOf] using noColon
  have joined : ∀ groups : List ℕ, FreeOf char (":".intercalate (groups.map (formatUint 16))) := by
    intro groups
    apply freeOf_intercalate colon
    intro piece listed
    rcases List.mem_map.mp listed with ⟨group, _, rfl⟩
    exact hexadecimal group
  refine absurd member ?_
  rw [IP.string]
  split
  · apply freeOf_intercalate dot
    intro piece listed
    rcases List.mem_map.mp listed with ⟨byte, _, rfl⟩
    exact decimal byte.toNat
  · simp only [IP.colonHex]
    split
    · exact joined _
    · exact freeOf_append.mpr ⟨joined _, freeOf_append.mpr ⟨colons, joined _⟩⟩

namespace Url

/-- An address and a port, written one after the other without brackets. -/
def addressHost (ip : IP) (port : Text) : Text := ip.string.toList ++ ':' :: port

variable (ip : IP) {port : Text} (digits : port.all Char.isDigit = true)

theorem plain_string : Plain ip.string.toList := by
  intro char member
  rcases ip.mem_string member with alphanum | rfl | rfl
  · refine ⟨?_, by simp [shouldEscape, alphanum]⟩
    rintro rfl
    exact absurd alphanum (by decide)
  · decide
  · decide

theorem undelimited_string : Undelimited ip.string.toList := by
  intro char member
  rcases ip.mem_string member with alphanum | rfl | rfl
  · exact @undelimited_of_isAlphanum [char] (by simpa using alphanum) char (by simp)
  · decide
  · decide

theorem bracket_notMem_string : '[' ∉ ip.string.toList := by
  intro member
  rcases ip.mem_string member with alphanum | dot | colon
  · exact absurd alphanum (by decide)
  · exact absurd dot (by decide)
  · exact absurd colon (by decide)

include digits

theorem colon_notMem_digits : ':' ∉ port := by
  intro member
  exact absurd (List.all_eq_true.mp digits ':' member) (by decide)

theorem plain_addressHost : Plain (addressHost ip port) := by
  intro char member
  rw [addressHost, List.mem_append, List.mem_cons] at member
  rcases member with address | rfl | digit
  · exact plain_string ip char address
  · exact plain_colon ':' (by simp)
  · exact plain_digits digits char digit

theorem undelimited_addressHost : Undelimited (addressHost ip port) := by
  have alphanum : port.all Char.isAlphanum = true := by
    rw [List.all_eq_true] at digits ⊢
    intro char member
    simp [Char.isAlphanum, digits char member]
  intro char member
  rw [addressHost, List.mem_append, List.mem_cons] at member
  rcases member with address | rfl | digit
  · exact undelimited_string ip char address
  · decide
  · exact undelimited_of_isAlphanum alphanum char digit

/-- Although the brackets are missing, an IPv6 address is told from the port behind it. -/
theorem parseHost_addressHost : parseHost (addressHost ip port) = .ok (addressHost ip port) := by
  rw [addressHost, parseHost_append (plain_string ip) (bracket_notMem_string ip)
    (colon_notMem_digits digits), if_pos digits]

theorem dialAddress_addressHost (nonempty : port ≠ []) (path : Text) :
    (http (addressHost ip port) path).dialAddress =
      joinHostPort ip.string (String.ofList port) := by
  have split := splitHostPort_append (bracket_notMem_string ip) (colon_notMem_digits digits) digits
  have name : (http (addressHost ip port) path).hostname = ip.string.toList :=
    congrArg Prod.fst split
  have number : (http (addressHost ip port) path).port = port := congrArg Prod.snd split
  rw [dialAddress, name, number, if_neg nonempty, String.ofList_toList]

end Url

end Addresses

end KedaHttp.Foundation
