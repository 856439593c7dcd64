import CodeDigest.Json.Basic
import CodeDigest.Url

/-!
# Requests to a server

What is sent to a server and what comes back.  Every request posts a JSON value.  A `Transport`
carries one request and brings the answer, or says that nobody listens; what it remembers on the way
is its own.
-/

namespace CodeDigest

/-- A request that posts a JSON value. -/
structure HttpRequest where
  url : Url
  headers : List (String × String)
  body : Json

/-- The answer of a server. -/
structure HttpAnswer where
  status : Nat
  body : String
deriving Repr, DecidableEq

/-- Carries a request and brings the answer; none when there is no connection. -/
abbrev Transport (σ : Type) := HttpRequest → StateM σ (Option HttpAnswer)

/-- The transport that never gets a connection. -/
def Transport.none {σ : Type} : Transport σ := fun _ => pure Option.none

/-- Whether a text can be the value of a header. -/
def isHeaderText (s : String) : Bool :=
  s.toList.all fun c => c == '\t' || (' ' ≤ c && c.toNat != 127)

/-- The phrases that go with status numbers. -/
def statusPhrases : List (Nat × String) :=
  [(100, "Continue"), (101, "Switching Protocols"), (102, "Processing"),
   (200, "OK"), (201, "Created"), (202, "Accepted"), (203, "Non Authoritative Information"),
   (204, "No Content"), (205, "Reset Content"), (206, "Partial Content"), (207, "Multi-Status"),
   (208, "Already Reported"), (226, "IM Used"),
   (300, "Multiple Choices"), (301, "Moved Permanently"), (302, "Found"), (303, "See Other"),
   (304, "Not Modified"), (305, "Use Proxy"), (307, "Temporary Redirect"),
   (308, "Permanent Redirect"),
   (400, "Bad Request"), (401, "Unauthorized"), (402, "Payment Required"), (403, "Forbidden"),
   (404, "Not Found"), (405, "Method Not Allowed"), (406, "Not Acceptable"),
   (407, "Proxy Authentication Required"), (408, "Request Timeout"), (409, "Conflict"),
   (410, "Gone"), (411, "Length Required"), (412, "Precondition Failed"),
   (413, "Payload Too Large"), (414, "URI Too Long"), (415, "Unsupported Media Type"),
   (416, "Range Not Satisfiable"), (417, "Expectation Failed"), (418, "I'm a teapot"),
   (421, "Misdirected Request"), (422, "Unprocessable Entity"), (423, "Locked"),
   (424, "Failed Dependency"), (425, "Too Early"), (426, "Upgrade Required"),
   (428, "Precondition Required"), (429, "Too Many Requests"),
   (431, "Request Header Fields Too Large"), (451, "Unavailable For Legal Reasons"),
   (500, "Internal Server Error"), (501, "Not Implemented"), (502, "Bad Gateway"),
   (503, "Service Unavailable"), (504, "Gateway Timeout"), (505, "HTTP Version Not Supported"),
   (506, "Variant Also Negotiates"), (507, "Insufficient Storage"), (508, "Loop Detected"),
   (510, "Not Extended"), (511, "Network Authentication Required")]

namespace HttpAnswer

/-- Whether the status reports success. -/
def isSuccess (a : HttpAnswer) : Bool := 200 ≤ a.status && a.status < 300

/-- What the answer says; with two of the status numbers an answer never says anything. -/
def text (a : HttpAnswer) : String := if a.status = 204 ∨ a.status = 304 then "" else a.body

/-- The status with its phrase. -/
def statusText (a : HttpAnswer) : String :=
  toString a.status ++ " " ++ (statusPhrases.lookup a.status).getD "<unknown status code>"

end HttpAnswer

end CodeDigest
