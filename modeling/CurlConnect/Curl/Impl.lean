import CurlConnect.Fields

/-!
`CurlConnection::CurlConnectionImpl_`, the object that owns one libcurl easy handle,
the `curl_slist` of request headers, and `_options`, the text of every option set
through it. `CurlConnection` forwards each call to it unchanged.

Pointers are addresses, `0` being `nullptr`. The `curl_slist` lists the object
allocates live in `slists`, by the address of their head; `next` is the address the
next allocation (a list node, the error buffer, a `WriteCallback` on the stack of
`execute`) returns, so allocations never alias.
-/

namespace CurlConnect

structure CurlConnectionImpl where
  /-- `_header`: the head of the list of request headers, or `nullptr`. -/
  header : Nat
  /-- `_handle`; `none` once `close` has run `curl_easy_cleanup`. -/
  handle : Option Handle
  options : CURLoption → Option (List Char)
  /-- The address of `_error_buffer`. -/
  errorBuffer : Nat
  slists : Nat → Option (List (List Char))
  next : Nat

namespace CurlConnectionImpl

variable (env : Env)

/-- `curl_slist_append(list, data)`: a copy of `data` becomes the last node, and the
head is returned (a null list starts a new one). `nullptr` when the allocation fails;
the list is then untouched. -/
def slistAppend (c : CurlConnectionImpl) (list : Nat) (data : List Char) :
    Nat × CurlConnectionImpl :=
  if env.alloc c.next then
    if list = 0 then
      (c.next, { c with slists := Function.update c.slists c.next (some [data]),
                        next := c.next + 1 })
    else
      (list, { c with slists := Function.update c.slists list ((c.slists list).map (· ++ [data])),
                      next := c.next + 1 })
  else (0, c)

def slistFreeAll (c : CurlConnectionImpl) (list : Nat) : CurlConnectionImpl :=
  if list = 0 then c else { c with slists := Function.update c.slists list none }

@[simp] theorem slistFreeAll_handle (c : CurlConnectionImpl) (list : Nat) :
    (slistFreeAll c list).handle = c.handle := by
  unfold slistFreeAll; split_ifs <;> rfl

@[simp] theorem slistFreeAll_options (c : CurlConnectionImpl) (list : Nat) :
    (slistFreeAll c list).options = c.options := by
  unfold slistFreeAll; split_ifs <;> rfl

def slistNodes (c : CurlConnectionImpl) (list : Nat) : List (List Char) :=
  if list = 0 then [] else (c.slists list).getD []

/-- The handle after libcurl refuses `param` for `option`. A string goes through
`Curl_setstropt`, which frees the option's old copy before it checks the new one, so the
option is left unset; a `long` or a pointer is checked before anything is stored. -/
def refusedHandle (h : Handle) (option : CURLoption) (param : OptVal) : Handle :=
  if param.isStr then Function.update h option none else h

theorem refusedHandle_of_ne (h : Handle) (param : OptVal) {option o : CURLoption}
    (hne : o ≠ option) : refusedHandle h option param o = h o := by
  unfold refusedHandle; split_ifs <;> simp [Function.update_noteq hne]

theorem refusedHandle_of_not_str (h : Handle) (option : CURLoption) {param : OptVal}
    (hs : param.isStr = false) : refusedHandle h option param = h := by
  simp [refusedHandle, hs]

/-- `set_option(option, param)`: refused on a closed handle; otherwise libcurl is
asked, and only an accepted value is recorded in `_options`. -/
def setOption (option : CURLoption) (param : OptVal) : Cpp CurlConnectionImpl Unit := fun c =>
  match c.handle with
  | none => .error .handleClosed c
  | some h =>
      if env.setopt option param then
        .ok () { c with handle := some (Function.update h option (some param)),
                        options := Function.update c.options option (some param.toStr) }
      else
        .error (.optionRefused option param.toStr)
          { c with handle := some (refusedHandle h option param) }

/-- The object after `curl_easy_init` and the allocation of the error buffer. -/
def initial : CurlConnectionImpl :=
  { header := 0, handle := if env.init then some fun _ => none else none,
    options := fun _ => none, errorBuffer := 1, slists := fun _ => none, next := 2 }

def ctorOptions : Cpp CurlConnectionImpl Unit := do
  setOption env .noSignal (.long 1)
  setOption env .errorBuffer (.ptr (initial env).errorBuffer)

/-- `CurlConnectionImpl_()`; a throw leaves no object. -/
def new : Except CurlException CurlConnectionImpl :=
  match ctorOptions env (initial env) with
  | .ok _ c => .ok c
  | .error e _ => .error e

/-- `close`: free the header list, clean the handle up, clear `_options`. -/
def close (c : CurlConnectionImpl) : CurlConnectionImpl :=
  { slistFreeAll c c.header with header := 0, handle := none, options := fun _ => none }

def isClosed (c : CurlConnectionImpl) : Bool := c.handle.isNone

/-- `SET_url`: the URL, then `CURLSSLOPT_NO_REVOKE`. -/
def setUrl (url : List Char) : Cpp CurlConnectionImpl Unit := do
  setOption env .url (.str (cStr url))
  setOption env .sslOptions (.long 2)

/-- `CurlConnectionImpl_(string url)`: `CurlConnectionImpl_()`, then `SET_url(url)`; a throw
leaves no object. -/
def newUrl (url : List Char) : Except CurlException CurlConnectionImpl :=
  match new env with
  | .error e => .error e
  | .ok c =>
      match setUrl env url c with
      | .ok _ c' => .ok c'
      | .error e _ => .error e

def getUrl (c : CurlConnectionImpl) : List Char := (c.options .url).getD []

def setSslVerify (enabled : Bool) : Cpp CurlConnectionImpl Unit := do
  setOption env .sslVerifyPeer (.long (if enabled then 1 else 0))
  setOption env .sslVerifyHost (.long (if enabled then 2 else 0))

def setSslVerifyUsingCaBundle (path : List Char) : Cpp CurlConnectionImpl Unit := do
  setSslVerify env true
  setOption env .caInfo (.str (cStr path))

def setSslVerifyUsingCaCerts (dir : List Char) : Cpp CurlConnectionImpl Unit := do
  setSslVerify env true
  setOption env .caPath (.str (cStr dir))

def setEncoding (enc : List Char) : Cpp CurlConnectionImpl Unit :=
  setOption env .acceptEncoding (.str (cStr enc))

def setKeepalive (enabled : Bool) : Cpp CurlConnectionImpl Unit :=
  setOption env .tcpKeepalive (.long (if enabled then 1 else 0))

/-- `SET_timeout`: a non-positive timeout is sent as `0`, no timeout. -/
def setTimeout (timeout : Int) : Cpp CurlConnectionImpl Unit :=
  setOption env .timeoutMs (.long (if timeout > 0 then timeout else 0))

/-- The loop of `ADD_headers`: each header, as `name: value` through `c_str()`, is
appended to `_header`, and `_header` takes whatever `curl_slist_append` returns. -/
def appendHeaders : List (List Char × List Char) → Cpp CurlConnectionImpl Unit
  | [] => pure ()
  | h :: hs => fun c =>
      let s := h.1 ++ ": ".toList ++ h.2
      let r := slistAppend env c c.header (cStr s)
      let c' : CurlConnectionImpl := { r.2 with header := r.1 }
      if c'.header = 0 then
        .error (.option "curl_slist_append failed trying to add header".toList .httpHeader s) c'
      else appendHeaders hs c'

/-- `ADD_headers`: refused on a closed handle, nothing for no headers, else the
loop and then `CURLOPT_HTTPHEADER` set to the head of the list. -/
def addHeaders (headers : List (List Char × List Char)) : Cpp CurlConnectionImpl Unit := fun c =>
  if c.handle.isNone then .error .handleClosed c
  else if headers.isEmpty then .ok () c
  else
    (do
      appendHeaders env headers
      let c ← get
      setOption env .httpHeader (.ptr c.header)) c

def findSub (pat : List Char) : List Char → Option Nat
  | [] => if pat.isPrefixOf [] then some 0 else none
  | x :: s => if pat.isPrefixOf (x :: s) then some 0 else (findSub pat s).map (· + 1)

/-- One node of `GET_headers`: split at the first `": "`, or `"malformed header"`. -/
def splitHeader (h : List Char) : Except CurlException (List Char × List Char) :=
  match findSub ": ".toList h with
  | none => .error (.curl "malformed header".toList)
  | some pos => .ok (h.take pos, h.drop (pos + 2))

def getHeaders (c : CurlConnectionImpl) : Except CurlException (List (List Char × List Char)) :=
  (slistNodes c c.header).mapM splitHeader

/-- `RESET_headers`: the list is freed and `_header` nulled, and `CURLOPT_HTTPHEADER`
leaves `_options`; the handle keeps its `CURLOPT_HTTPHEADER`. -/
def resetHeaders (c : CurlConnectionImpl) : CurlConnectionImpl :=
  { slistFreeAll c c.header with
    header := 0, options := Function.update c.options .httpHeader none }

def hasHeaders (c : CurlConnectionImpl) : Bool := c.header ≠ 0

/-- `SET_fields(const string&)`: an empty body sets nothing. -/
def setFieldsText (fields : List Char) : Cpp CurlConnectionImpl Unit := fun c =>
  if c.handle.isNone then .error .handleClosed c
  else if fields.isEmpty then .ok () c
  else setOption env .copyPostFields (.str (cStr fields)) c

def setFields (fields : List (List Char × List Char)) : Cpp CurlConnectionImpl Unit :=
  setFieldsText env (pairsToFieldsStr fields)

/-- `RESET_options`: `RESET_headers`, `curl_easy_reset`, and `_options` cleared. -/
def resetOptions (c : CurlConnectionImpl) : CurlConnectionImpl :=
  { resetHeaders c with handle := c.handle.map fun _ _ => none, options := fun _ => none }

/-- The part of `execute` before `curl_easy_perform`: a `WriteCallback` for the body
and one for the header on the stack, and the callbacks that write into them. The
header callback is installed only when header data is asked for. -/
def prepare (b : Bool) : Cpp CurlConnectionImpl Unit := fun c =>
  if c.handle.isNone then .error .handleClosed c
  else
    (do
      setOption env .writeFunction (.ptr env.writeCallback)
      setOption env .writeData (.ptr c.next)
      if b then
        setOption env .headerFunction (.ptr env.writeCallback)
        setOption env .headerData (.ptr (c.next + 1))) { c with next := c.next + 2 }

/-- `curl_easy_perform` and the reading of the two buffers. -/
def perform (b : Bool) : Cpp CurlConnectionImpl (Int × List Char × List Char) := fun c =>
  match c.handle with
  | none => .error .handleClosed c
  | some h =>
      match env.perform h with
      | .error (code, msg) => .error (.connectionError code msg) c
      | .ok (status, body, head) => .ok (status, body, if b then head else []) c

/-- `execute`: the status code, the body and, if asked, the header bytes (empty otherwise);
the time point the C++ tuple also carries is not modelled. -/
def execute (b : Bool) : Cpp CurlConnectionImpl (Int × List Char × List Char) := do
  prepare env b
  perform env b

/-- `header_list_to_map` on the nodes of a list: each node cut at its first `':'`.
`none` when a node has no `':'`, where the source reads past the node's end. -/
def headerListToMap (nodes : List (List Char)) : Option (List (List Char × List Char)) :=
  nodes.mapM fun s =>
    if ':' ∈ s then some (s.takeWhile (· ≠ ':'), (s.dropWhile (· ≠ ':')).tail) else none

end CurlConnectionImpl

end CurlConnect
