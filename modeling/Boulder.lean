import Boulder.GoStrings
import Boulder.GoInts
import Boulder.Core
import Boulder.Time
import Boulder.Base64
import Boulder.Policy.Domain
import Boulder.Policy.Blocklist
import Boulder.Policy.Reload
import Boulder.Policy.Challenges
import Boulder.SA.Codes
import Boulder.SA.OrderStatus
import Boulder.SA.Authz
import Boulder.SA.AuthzStorage
import Boulder.SA.Rows
import Boulder.SA.Replacement
import Boulder.SA.Sql
import Boulder.SA.IdentQuery
import Boulder.SA.OrderAuthzs
import Boulder.SA.Models
import Boulder.SA.IssuedNames
import Boulder.RateLimits.Limit
import Boulder.RateLimits.Registry
import Boulder.RateLimits.Dump
