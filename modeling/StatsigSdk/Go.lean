import Mathlib.Data.List.Basic

/-! What the code takes from Go and from its host: panics, the two fields of
`Options` the modelled code reads, and what it exchanges with `net/http`. A panic
value is known by the message `toError` renders for it, `nil` being `none`. A
request is what is handed to `client.Do`: method, URL, the headers with the keys
as the code writes them and in the order it sets them (`net/http` canonicalises
each key into an unordered map), and the body. A response is known by its status
code and by what `json.NewDecoder(body).Decode(&out)` makes of its body. Which URLs
`url.Parse` rejects (through `http.NewRequest`) is left open: every function that
builds a request takes that verdict as `urlError`. -/

namespace StatsigSdk

/-! ### Panics -/

/-- The value passed to `panic` (or raised by the runtime), as `toError(err).Error()`
renders it; `none` is a `nil` value, which `recover()` cannot tell from no panic. -/
abbrev PanicValue := Option String

/-- The runtime's panic on `*p` for a `nil` pointer `p`. -/
def nilDereference : PanicValue :=
  some "runtime error: invalid memory address or nil pointer dereference"

/-- `*p` for a pointer field `p`. -/
def deref {α : Type} : Option α → Except PanicValue α
  | some a => .ok a
  | none => .error nilDereference

/-! ### The host and `net/http` -/

/-- The fields of `Options` that the transport and the error boundary read. -/
structure Options where
  API : String
  LocalMode : Bool
  deriving DecidableEq, Repr

/-- `statsigMetadata`: the SDK name and version sent as headers. -/
structure StatsigMetadata where
  SDKType : String
  SDKVersion : String
  deriving DecidableEq, Repr

/-- The body of an outgoing request: none (a `GET`), the bytes of a marshalled
payload, or a `logExceptionRequestBody`. -/
inductive RequestBody where
  | none
  | json (bytes : String)
  | exceptionReport (exception info : String)
  deriving DecidableEq, Repr

structure Request where
  method : String
  url : String
  header : List (String × String)
  body : RequestBody
  deriving DecidableEq, Repr

/-- `req.Header.Add(key, value)` and `req.Header.Set(key, value)`; the code never
sets one key twice, so both append. -/
def Request.addHeader (req : Request) (key value : String) : Request :=
  { req with header := req.header ++ [(key, value)] }

@[simp] theorem Request.addHeader_url (req : Request) (key value : String) :
    (req.addHeader key value).url = req.url := rfl

@[simp] theorem Request.addHeader_body (req : Request) (key value : String) :
    (req.addHeader key value).body = req.body := rfl

/-- `http.NewRequest(method, url, body)`: it fails exactly when the URL does not
parse. -/
def newRequest (urlError : String → Option String) (method url : String) (body : RequestBody) :
    Except String Request :=
  match urlError url with
  | some err => .error err
  | none => .ok ⟨method, url, [], body⟩

theorem newRequest_eq_error {urlError : String → Option String} {method url : String}
    {body : RequestBody} {err : String} (h : newRequest urlError method url body = .error err) :
    urlError url = some err := by
  unfold newRequest at h
  split at h <;> simp_all

theorem newRequest_eq_ok {urlError : String → Option String} {method url : String}
    {body : RequestBody} {req : Request} (h : newRequest urlError method url body = .ok req) :
    urlError url = none ∧ req = ⟨method, url, [], body⟩ := by
  unfold newRequest at h
  split at h <;> simp_all

/-- A response body, by what `json.NewDecoder(body).Decode(&out)` returns on it:
`io.EOF` on an empty body, `nil` on JSON that decodes into `out`, an error otherwise. -/
inductive Body where
  | empty
  | json
  | invalid (err : String)
  deriving DecidableEq, Repr

def Body.decode : Body → Option String
  | .empty => some "EOF"
  | .json => none
  | .invalid err => some err

structure Response where
  statusCode : Int
  body : Body
  deriving DecidableEq, Repr

/-- What `client.Do` returns: a response and no error, or an error together with
the response that `net/http` hands back with it when a redirect check fails
(`none` for DNS failures, refused connections and timeouts). -/
inductive DoOutcome where
  | ok (response : Response)
  | error (response : Option Response) (err : String)
  deriving DecidableEq, Repr

def DoOutcome.response : DoOutcome → Option Response
  | .ok response => some response
  | .error response _ => response

def DoOutcome.err : DoOutcome → Option String
  | .ok _ => none
  | .error _ err => some err

/-- `strconv.FormatInt(n, 10)`. -/
def formatInt (n : Int) : String := toString n

end StatsigSdk
