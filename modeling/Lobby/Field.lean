import Lobby.Record.Label

/-!
# Fields

The labels of the fields that requests, replies and notices carry.
-/

namespace Lobby.Field

/-! ## Who: players, sessions and logins -/

/-- Account id. -/
def aid : Label := .ofChars ['A', 'I', 'D']
/-- Token of a silent login. -/
def auth : Label := .ofChars ['A', 'U', 'T', 'H']
/-- User id of a login. -/
def buid : Label := .ofChars ['B', 'U', 'I', 'D']
/-- Display name. -/
def dsnm : Label := .ofChars ['D', 'S', 'N', 'M']
/-- First login. -/
def frst : Label := .ofChars ['F', 'R', 'S', 'T']
/-- Player id in presence notices. -/
def id : Label := .ofChars ['I', 'D']
/-- Session key, or key of a setting. -/
def key : Label := .ofChars ['K', 'E', 'Y']
/-- Last login. -/
def last : Label := .ofChars ['L', 'A', 'S', 'T']
/-- Legal document host. -/
def ldht : Label := .ofChars ['L', 'D', 'H', 'T']
/-- Time of the last login. -/
def llog : Label := .ofChars ['L', 'L', 'O', 'G']
/-- Email. -/
def mail : Label := .ofChars ['M', 'A', 'I', 'L']
/-- Name. -/
def name : Label := .ofChars ['N', 'A', 'M', 'E']
/-- Terms of service are new. -/
def ntos : Label := .ofChars ['N', 'T', 'O', 'S']
/-- Password. -/
def pass : Label := .ofChars ['P', 'A', 'S', 'S']
/-- Token of the client. -/
def pctk : Label := .ofChars ['P', 'C', 'T', 'K']
/-- Persona. -/
def pdtl : Label := .ofChars ['P', 'D', 'T', 'L']
/-- Player id. -/
def pid : Label := .ofChars ['P', 'I', 'D']
/-- Privacy policy. -/
def priv : Label := .ofChars ['P', 'R', 'I', 'V']
/-- Session of a login. -/
def sess : Label := .ofChars ['S', 'E', 'S', 'S']
/-- Mail is wanted. -/
def spam : Label := .ofChars ['S', 'P', 'A', 'M']
/-- Status of a persona. -/
def stas : Label := .ofChars ['S', 'T', 'A', 'S']
/-- Host of the terms. -/
def thst : Label := .ofChars ['T', 'H', 'S', 'T']
/-- Terms to show. -/
def tsui : Label := .ofChars ['T', 'S', 'U', 'I']
/-- Address of the terms. -/
def turi : Label := .ofChars ['T', 'U', 'R', 'I']
/-- User id. -/
def uid : Label := .ofChars ['U', 'I', 'D']
/-- A user. -/
def user : Label := .ofChars ['U', 'S', 'E', 'R']
/-- User id in matchmaking. -/
def usid : Label := .ofChars ['U', 'S', 'I', 'D']
/-- External reference. -/
def xref : Label := .ofChars ['X', 'R', 'E', 'F']
/-- External type. -/
def xtyp : Label := .ofChars ['X', 'T', 'Y', 'P']
/-- Entitlements. -/
def nlst : Label := .ofChars ['N', 'L', 'S', 'T']

/-! ## Where: network data of a session -/

/-- Addresses of a session. -/
def addr : Label := .ofChars ['A', 'D', 'D', 'R']
/-- External address. -/
def exip : Label := .ofChars ['E', 'X', 'I', 'P']
/-- Hardware flags in a request. -/
def hwfg : Label := .ofChars ['H', 'W', 'F', 'G']
/-- Hardware flags in a notice. -/
def hwfl : Label := .ofChars ['H', 'W', 'F', 'L']
/-- Internal address. -/
def inip : Label := .ofChars ['I', 'N', 'I', 'P']
/-- Address. -/
def ip : Label := .ofChars ['I', 'P']
/-- Port. -/
def port : Label := .ofChars ['P', 'O', 'R', 'T']
/-- Value: what a union holds, or the values of a rule. -/
def valu : Label := .ofChars ['V', 'A', 'L', 'U']
/-- Locale of an account. -/
def aloc : Label := .ofChars ['A', 'L', 'O', 'C']
/-- Flags of a user. -/
def flgs : Label := .ofChars ['F', 'L', 'G', 'S']
/-- Games of a user. -/
def ulst : Label := .ofChars ['U', 'L', 'S', 'T']
/-- Locale. -/
def loc : Label := .ofChars ['L', 'O', 'C']

/-! ## Games -/

/-- Administrators. -/
def admn : Label := .ofChars ['A', 'D', 'M', 'N']
/-- Attributes. -/
def attr : Label := .ofChars ['A', 'T', 'T', 'R']
/-- Opaque data of a member. -/
def blob : Label := .ofChars ['B', 'L', 'O', 'B']
/-- Capacities. -/
def cap : Label := .ofChars ['C', 'A', 'P']
/-- Context of a removal. -/
def cntx : Label := .ofChars ['C', 'N', 'T', 'X']
/-- Context of a creation. -/
def dctx : Label := .ofChars ['D', 'C', 'T', 'X']
/-- A game. -/
def game : Label := .ofChars ['G', 'A', 'M', 'E']
/-- Game id. -/
def gid : Label := .ofChars ['G', 'I', 'D']
/-- Name of a game. -/
def gnam : Label := .ofChars ['G', 'N', 'A', 'M']
/-- Setting of a game. -/
def gset : Label := .ofChars ['G', 'S', 'E', 'T']
/-- State of a game. -/
def gsta : Label := .ofChars ['G', 'S', 'T', 'A']
/-- Addresses of a host. -/
def hnet : Label := .ofChars ['H', 'N', 'E', 'T']
/-- Host of a game. -/
def host : Label := .ofChars ['H', 'O', 'S', 'T']
/-- Player id of a host. -/
def hpid : Label := .ofChars ['H', 'P', 'I', 'D']
/-- Slot of a host. -/
def hslt : Label := .ofChars ['H', 'S', 'L', 'T']
/-- Data of a member. -/
def pdat : Label := .ofChars ['P', 'D', 'A', 'T']
/-- Addresses of a member. -/
def pnet : Label := .ofChars ['P', 'N', 'E', 'T']
/-- Members of a game. -/
def pros : Label := .ofChars ['P', 'R', 'O', 'S']
/-- Reason. -/
def reas : Label := .ofChars ['R', 'E', 'A', 'S']
/-- Slot of a member. -/
def sid : Label := .ofChars ['S', 'I', 'D']
/-- Status. -/
def stat : Label := .ofChars ['S', 'T', 'A', 'T']
/-- Targets of a mesh connection. -/
def targ : Label := .ofChars ['T', 'A', 'R', 'G']

/-! ## Matchmaking -/

/-- Criteria. -/
def crit : Label := .ofChars ['C', 'R', 'I', 'T']
/-- Best possible fit. -/
def maxf : Label := .ofChars ['M', 'A', 'X', 'F']
/-- Matchmaking session id. -/
def msid : Label := .ofChars ['M', 'S', 'I', 'D']
/-- Rules. -/
def rlst : Label := .ofChars ['R', 'L', 'S', 'T']
/-- Result. -/
def rslt : Label := .ofChars ['R', 'S', 'L', 'T']

/-! ## Connections and settings -/

/-- Address of a service. -/
def adrs : Label := .ofChars ['A', 'D', 'R', 'S']
/-- Anonymous play is allowed. -/
def anon : Label := .ofChars ['A', 'N', 'O', 'N']
/-- Source of accounts. -/
def asrc : Label := .ofChars ['A', 'S', 'R', 'C']
/-- Name of a client configuration. -/
def cfid : Label := .ofChars ['C', 'F', 'I', 'D']
/-- Components. -/
def cids : Label := .ofChars ['C', 'I', 'D', 'S']
/-- Configuration. -/
def conf : Label := .ofChars ['C', 'O', 'N', 'F']
/-- Extended data of a session, or value of a setting. -/
def data : Label := .ofChars ['D', 'A', 'T', 'A']
/-- Name of the service. -/
def inst : Label := .ofChars ['I', 'N', 'S', 'T']
/-- Minors are restricted. -/
def minr : Label := .ofChars ['M', 'I', 'N', 'R']
/-- Namespace of personas. -/
def nasp : Label := .ofChars ['N', 'A', 'S', 'P']
/-- Legal document of the platform. -/
def pild : Label := .ofChars ['P', 'I', 'L', 'D']
/-- Platform. -/
def plat : Label := .ofChars ['P', 'L', 'A', 'T']
/-- Purchases service. -/
def pss : Label := .ofChars ['P', 'S', 'S']
/-- Resource. -/
def rsrc : Label := .ofChars ['R', 'S', 'R', 'C']
/-- Delay of telemetry. -/
def sdly : Label := .ofChars ['S', 'D', 'L', 'Y']
/-- Settings of a player. -/
def smap : Label := .ofChars ['S', 'M', 'A', 'P']
/-- Time of the server. -/
def stim : Label := .ofChars ['S', 'T', 'I', 'M']
/-- Version of the server. -/
def sver : Label := .ofChars ['S', 'V', 'E', 'R']
/-- Telemetry service. -/
def tele : Label := .ofChars ['T', 'E', 'L', 'E']
/-- Telemetry option. -/
def tmop : Label := .ofChars ['T', 'M', 'O', 'P']
/-- Options of a user. -/
def urop : Label := .ofChars ['U', 'R', 'O', 'P']

end Lobby.Field
