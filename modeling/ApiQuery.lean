import ApiQuery.Api
import ApiQuery.Config.Lookup
import ApiQuery.Grammar.Custom
import ApiQuery.Proofs.BaseUrl
import ApiQuery.Proofs.Building
import ApiQuery.Proofs.DefaultHeaders
import ApiQuery.Proofs.EqualQueries
import ApiQuery.Proofs.HeaderLines
import ApiQuery.Proofs.JoinedLists
import ApiQuery.Proofs.Lookup
import ApiQuery.Proofs.Malformed
import ApiQuery.Proofs.Merging
import ApiQuery.Proofs.Methods
import ApiQuery.Proofs.ReadBack
import ApiQuery.Proofs.RecordReadBack
import ApiQuery.Proofs.Refusals
import ApiQuery.Proofs.RequestBody
import ApiQuery.Proofs.Sending
import ApiQuery.Proofs.Timeout
import ApiQuery.Query.Builder
