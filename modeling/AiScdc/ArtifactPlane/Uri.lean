import AiScdc.Sandbox

namespace AiScdc.ArtifactPlane

-- What the URL library reads from Unicode tables and address syntax.
class UrlText where
  lower : List Char → List Char
  acceptsNetloc : List Char → Bool

structure SplitResult where
  scheme : List Char
  netloc : List Char
  path : List Char
  query : List Char
  fragment : List Char
  deriving DecidableEq, Repr

def isSchemeChar (c : Char) : Bool := c.isAlphanum || c = '+' || c = '-' || c = '.'

def isC0ControlOrSpace (c : Char) : Bool := c.toNat ≤ 0x20

def isUnsafe (c : Char) : Bool := c = '\t' || c = '\r' || c = '\n'

def before (stop : Char → Bool) (text : List Char) : List Char := text.takeWhile fun c => !stop c

def after (stop : Char → Bool) (text : List Char) : List Char :=
  (text.dropWhile fun c => !stop c).drop 1

def afterLast (stop : Char → Bool) (text : List Char) : List Char :=
  (before stop text.reverse).reverse

def splitScheme (url : List Char) : List Char × List Char :=
  let scheme := before (· = ':') url
  if url.contains ':' && (scheme.head?.any Char.isAlpha) && scheme.all isSchemeChar then
    (scheme.map Char.toLower,after (· = ':') url)
  else ([],url)

def splitNetloc (url : List Char) : List Char × List Char :=
  match url with
  | '/' :: '/' :: rest =>
    let ends (c : Char) : Bool := c = '/' || c = '?' || c = '#'
    (before ends rest,rest.dropWhile fun c => !ends c)
  | _ => ([],url)

-- The URL library raises `ValueError` where this answers `none`.
def urlsplit [UrlText] (uri : String) : Option SplitResult :=
  let url := (uri.toList.dropWhile isC0ControlOrSpace).filter fun c => !isUnsafe c
  let (scheme,rest) := splitScheme url
  let (netloc,rest) := splitNetloc rest
  if netloc = [] || UrlText.acceptsNetloc netloc then
    let hierarchy := before (· = '#') rest
    some ⟨scheme,netloc,before (· = '?') hierarchy,after (· = '?') hierarchy,after (· = '#') rest⟩
  else none

def usesParams : List String :=
  ["","ftp","hdl","prospero","http","https","shttp","rtsp","rtsps","rtspu","sip","sips","mms",
    "sftp","tel"]

def withoutParams (path : List Char) : List Char :=
  let last := afterLast (· = '/') path
  path.take (path.length - last.length) ++ before (· = ';') last

def urlparse [UrlText] (uri : String) : Option SplitResult :=
  (urlsplit uri).map fun parsed =>
    if String.ofList parsed.scheme ∈ usesParams then { parsed with path := withoutParams parsed.path }
    else parsed

def usesNetloc : List String :=
  ["","ftp","http","gopher","nntp","telnet","imap","wais","file","mms","https","shttp","snews",
    "prospero","rtsp","rtsps","rtspu","rsync","svn","svn+ssh","sftp","nfs","git","git+ssh","ws","wss"]

def urlunsplit (scheme netloc path : List Char) : List Char :=
  let withNetloc :=
    if netloc ≠ [] ∨ (scheme ≠ [] ∧ String.ofList scheme ∈ usesNetloc ∧ path.take 2 ≠ ['/','/']) then
      ['/','/'] ++ netloc ++ (if path ≠ [] ∧ path.head? ≠ some '/' then '/' :: path else path)
    else path
  if scheme = [] then withNetloc else scheme ++ [':'] ++ withNetloc

def SplitResult.hostinfo (parsed : SplitResult) : List Char × List Char :=
  let hostinfo := afterLast (· = '@') parsed.netloc
  if hostinfo.contains '[' then
    let bracketed := after (· = '[') hostinfo
    (before (· = ']') bracketed,after (· = ':') (after (· = ']') bracketed))
  else (before (· = ':') hostinfo,after (· = ':') hostinfo)

def SplitResult.hostname [UrlText] (parsed : SplitResult) : Option (List Char) :=
  let hostname := parsed.hostinfo.1
  if hostname = [] then none
  else some (UrlText.lower (before (· = '%') hostname) ++ hostname.dropWhile fun c => !(c = '%'))

def SplitResult.port (parsed : SplitResult) : Option ℕ :=
  let port := parsed.hostinfo.2
  if port ≠ [] ∧ port.all Char.isDigit then
    let number := port.foldl (fun n c => 10 * n + (c.toNat - '0'.toNat)) 0
    if number ≤ 65535 then some number else none
  else none

def redactedNetloc [UrlText] (parsed : SplitResult) : List Char :=
  match parsed.hostname with
  | none => []
  | some hostname =>
    let host := if hostname.contains ':' && hostname.head? ≠ some '[' then
      ['['] ++ hostname ++ [']'] else hostname
    match parsed.port with
    | none => host
    | some port => host ++ [':'] ++ (toString port).toList

def SplitResult.redacted [UrlText] (parsed : SplitResult) : String :=
  String.ofList (urlunsplit parsed.scheme (redactedNetloc parsed) parsed.path)

def redactUri [UrlText] (uri : String) : Option String := (urlsplit uri).map SplitResult.redacted

def providerName (parsed : SplitResult) : String :=
  match String.ofList parsed.scheme with
  | "local-inline" => "local_inline"
  | "oss" => "aliyun_oss"
  | "patch-artifact" => "patch_artifact"
  | _ => "unknown"

def providerNameFromUri [UrlText] (uri : String) : Option String := (urlsplit uri).map providerName

def isLocalInlineUri [UrlText] (uri : String) : Option Bool :=
  (urlsplit uri).map fun parsed => String.ofList parsed.scheme = "local-inline"

def objectId (parsed : SplitResult) : Option String :=
  let storedObjectId := parsed.path.dropWhile (· = '/')
  if storedObjectId = [] then none else some (String.ofList storedObjectId)

def namedObject (parsed : SplitResult) : Option String :=
  if String.ofList parsed.scheme ≠ "local-inline" then none
  else if String.ofList parsed.netloc ≠ "cloud-run-objects" then none
  else objectId parsed

def localInlineObjectId [UrlText] (uri : String) : Option (Option String) := (urlsplit uri).map namedObject

end AiScdc.ArtifactPlane
